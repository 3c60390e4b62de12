import MetastoreProbe.Console
import MetastoreProbe.Error
import MetastoreProbe.Table

/-!
# Clients

The checks talk to a metastore only through a `Client`: four operations over a state `σ`, which is
whatever the client keeps between calls.  An operation answers or fails, and changes the state in
both cases.  Conditions that the checks expect are answers (`CreateOutcome`), not errors.

A `Session` is a client's state together with what has been seen from outside: the calls with
their answers, and the lines printed.  `Session.call` is the only way in which a check makes a
call, so nothing reaches the metastore that `exchanges` does not show.
-/

namespace MetastoreProbe

/-- How an object that may exist already was provided. -/
inductive CreateOutcome
  | created
  | alreadyExisted
  deriving DecidableEq, Repr

/-- The operations on a metastore, for a client with the state `σ`. -/
structure Client (σ : Type) where
  /-- The name of the connection that the client uses. -/
  transport : String
  createDatabase : String → EStateM Error σ CreateOutcome
  createTable : Table → EStateM Error σ CreateOutcome
  getSchema : (database table : String) → EStateM Error σ Schema
  close : EStateM Error σ Unit

/-- A call, and how it was answered. -/
inductive Exchange
  | createDatabase (name : String) (answer : Except Error CreateOutcome)
  | createTable (table : Table) (answer : Except Error CreateOutcome)
  | getSchema (database table : String) (answer : Except Error Schema)
  | close (answer : Except Error Unit)

/-- A call without its answer. -/
inductive Call
  | createDatabase (name : String)
  | createTable (table : Table)
  | getSchema (database table : String)
  | close
  deriving DecidableEq, Repr

/-- The call of an exchange. -/
def Exchange.call : Exchange → Call
  | createDatabase name _ => .createDatabase name
  | createTable table _ => .createTable table
  | getSchema database table _ => .getSchema database table
  | close _ => .close

/-- A client at work. -/
structure Session (σ : Type) where
  /-- The state of the client. -/
  client : σ
  /-- The calls made, the first one first. -/
  exchanges : List Exchange := []
  /-- The entries printed, the first one first. -/
  console : List Console.Entry := []

namespace Session

variable {σ α : Type}

/-- Makes a call and records it. -/
def call (operation : EStateM Error σ α) (record : Except Error α → Exchange) :
    EStateM Error (Session σ) α := fun s =>
  match operation s.client with
  | .ok a client => .ok a { s with client, exchanges := s.exchanges ++ [record (.ok a)] }
  | .error e client =>
    .error e { s with client, exchanges := s.exchanges ++ [record (.error e)] }

/-- The session after an entry has been printed. -/
def printed (s : Session σ) (entry : Console.Entry) : Session σ :=
  { s with console := s.console ++ [entry] }

/-- Prints an entry. -/
def print (entry : Console.Entry) : EStateM Error (Session σ) Unit := fun s =>
  .ok () (s.printed entry)

end Session

namespace Client

variable {σ : Type} (client : Client σ)

/-- Provides a database: one that exists already will do. -/
def ensureDatabase (name : String) : EStateM Error (Session σ) CreateOutcome :=
  Session.call (client.createDatabase name) (.createDatabase name)

/-- Provides a table: one that exists already will do, and is reported. -/
def ensureTable (table : Table) : EStateM Error (Session σ) CreateOutcome := do
  let outcome ← Session.call (client.createTable table) (.createTable table)
  match outcome with
  | .created => pure ()
  | .alreadyExisted => Session.print (.tagged .info s!"Table {table.name} already existed")
  return outcome

/-- The schema that the metastore has for a table. -/
def fetchSchema (database table : String) : EStateM Error (Session σ) Schema :=
  Session.call (client.getSchema database table) (.getSchema database table)

/-- Closes the client. -/
def shutDown : EStateM Error (Session σ) Unit :=
  Session.call client.close .close

end Client

end MetastoreProbe
