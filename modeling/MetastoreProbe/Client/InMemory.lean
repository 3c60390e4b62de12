import MetastoreProbe.Client

/-!
# A metastore in memory

The behaviour of a metastore on which the checks rely, without a connection: databases and tables
exist once they are created and are never changed, a table needs its database, and the schema of a
table is that of the columns it was created with.  Failure can be laid down: databases that a
policy denies, a server that cannot be reached, a schema that takes the place of every other.
-/

namespace MetastoreProbe

/-- The state of a metastore in memory. -/
structure InMemoryMetastore where
  /-- The names of the databases. -/
  databases : List String := []
  /-- The tables under the names of their databases and their own, the first one created first. -/
  tables : List ((String × String) × Table) := []
  /-- The databases that a policy denies. -/
  denied : List String := []
  /-- Whether every call for a database fails. -/
  unreachable : Bool := false
  /-- The schema reported for every table. -/
  schemaOverride : Option Schema := none
  closed : Bool := false
  deriving DecidableEq, Repr

namespace InMemoryMetastore

/-- The table with the given name, if there is one. -/
def find? (m : InMemoryMetastore) (database name : String) : Option Table :=
  m.tables.lookup (database, name)

/-- An exception of the metastore. -/
def exception (operation kind message : String) : Error :=
  .metastore (.exception operation kind message)

/-- Creates a database unless it exists. -/
def createDatabase (name : String) : EStateM Error InMemoryMetastore CreateOutcome := fun m =>
  if m.unreachable then .error (.metastore (.transport (.other "broken pipe"))) m
  else if name ∈ m.denied then
    .error
      (exception "create_database" "MetaException" s!"Permission denied on database {name}") m
  else if name ∈ m.databases then .ok .alreadyExisted m
  else .ok .created { m with databases := m.databases ++ [name] }

/-- Creates a table unless it exists. -/
def createTable (table : Table) : EStateM Error InMemoryMetastore CreateOutcome := fun m =>
  if table.database ∉ m.databases then
    .error (exception "create_table" "NoSuchObjectException" s!"{table.database} not found") m
  else if (m.find? table.database table.name).isSome then .ok .alreadyExisted m
  else .ok .created { m with tables := m.tables ++ [((table.database, table.name), table)] }

/-- The schema of a table. -/
def getSchema (database name : String) : EStateM Error InMemoryMetastore Schema := fun m =>
  match m.schemaOverride with
  | some schema => .ok schema m
  | none =>
    match m.find? database name with
    | some table => .ok table.schema m
    | none => .error (exception "get_schema" "UnknownTableException" s!"{database}.{name}") m

/-- Closes the client; the metastore keeps what it has. -/
def close : EStateM Error InMemoryMetastore Unit := fun m =>
  .ok () { m with closed := true }

/-- The operations of the metastore. -/
def client : Client InMemoryMetastore where
  transport := "in-memory"
  createDatabase := createDatabase
  createTable := createTable
  getSchema := getSchema
  close := close

end InMemoryMetastore

end MetastoreProbe
