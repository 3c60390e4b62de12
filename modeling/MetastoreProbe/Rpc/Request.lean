import MetastoreProbe.Rpc.Method
import MetastoreProbe.Table
import MetastoreProbe.Wire.Writer

/-!
# Requests

`Request.encode` gives the message that asks for a call: a head with the method and the number of
the request, and a struct of arguments.  A table is sent with the fields that the smoke test sets,
under the ids of the metastore's interface; `EXTERNAL` is a parameter of external tables only.
-/

namespace MetastoreProbe

/-- What the metastore is asked for. -/
inductive Request
  | createDatabase (name : String)
  /-- The time of creation is in seconds, in as many bits as the message has for it. -/
  | createTable (table : Table) (createTime : Int32)
  | getSchema (database table : String)
  deriving DecidableEq, Repr

namespace Request

/-- The method that a request calls. -/
def method : Request → Method
  | createDatabase _ => .createDatabase
  | createTable _ _ => .createTable
  | getSchema _ _ => .getSchema

/-- A column on the wire. -/
def column (c : Column) : Bytes :=
  Writer.struct
    [Writer.stringField 1 c.name, Writer.stringField 2 c.type, Writer.stringField 3 c.comment]

/-- A field that holds columns. -/
def columnsField (id : Int16) (columns : List Column) : Bytes :=
  Writer.field .list id (Writer.list .struct (columns.map column))

/-- How and where the data of a table is stored: the fields of that struct. -/
def storage (t : Table) : List Bytes :=
  [columnsField 1 t.columns,
    Writer.stringField 2 t.location,
    Writer.stringField 3 t.inputFormat,
    Writer.stringField 4 t.outputFormat,
    Writer.boolField 5 t.compressed,
    Writer.i32Field 6 (-1),
    Writer.structField 7 [Writer.stringField 2 t.serializationLib],
    Writer.boolField 12 false]

/-- The parameters that mark an external table; a managed table has none. -/
def parameters (kind : TableKind) : List Bytes :=
  match kind with
  | .managed => []
  | .external =>
    [Writer.field .map 9
      (Writer.map .string .string [(Writer.string "EXTERNAL", Writer.string "TRUE")])]

/-- A table on the wire: the fields of that struct. -/
def table (t : Table) (createTime : Int32) : List Bytes :=
  [Writer.stringField 1 t.name,
    Writer.stringField 2 t.database,
    Writer.i32Field 4 createTime,
    Writer.i32Field 5 0,
    Writer.i32Field 6 0,
    Writer.structField 7 (storage t),
    columnsField 8 []] ++
  parameters t.kind ++
  [Writer.stringField 12 t.kind.tableType]

/-- The arguments of a request. -/
def arguments : Request → List Bytes
  | createDatabase name => [Writer.structField 1 [Writer.stringField 1 name]]
  | createTable t createTime => [Writer.structField 1 (table t createTime)]
  | getSchema database name => [Writer.stringField 1 database, Writer.stringField 2 name]

/-- The message that asks for a call, numbered `sequence`. -/
def encode (sequence : Int32) (request : Request) : Bytes :=
  Writer.messageHead .call request.method.name sequence ++ Writer.struct request.arguments

end Request

end MetastoreProbe
