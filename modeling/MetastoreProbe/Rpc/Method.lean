/-!
# Methods

The three methods of the metastore that the checks call, and the exceptions that each declares.
A reply refers to a declared exception by the id of its result field: the `n`-th exception has the
id `n`, and the id 0 belongs to the value that the method returns.
-/

namespace MetastoreProbe

/-- A method of the metastore. -/
inductive Method
  | createDatabase
  | createTable
  | getSchema
  deriving DecidableEq, Repr

namespace Method

/-- The name of a method on the wire. -/
def name : Method → String
  | createDatabase => "create_database"
  | createTable => "create_table"
  | getSchema => "get_schema"

/-- The exceptions that a method declares, by id from 1 on. -/
def exceptions : Method → List String
  | createDatabase => ["AlreadyExistsException", "InvalidObjectException", "MetaException"]
  | createTable =>
    ["AlreadyExistsException", "InvalidObjectException", "MetaException", "NoSuchObjectException"]
  | getSchema => ["MetaException", "UnknownTableException", "UnknownDBException"]

/-- The exception that a result field holds, if its id is one of an exception. -/
def exception? (method : Method) (id : Int16) : Option String :=
  if 1 ≤ id.toInt then method.exceptions[id.toInt.toNat - 1]? else none

end Method

end MetastoreProbe
