import MetastoreProbe.Client
import MetastoreProbe.Client.Exceptions
import MetastoreProbe.Wire.Value

/-!
# The client over a plain connection

Without authentication a call goes over a `PlainLink`: it is given the arguments of the call as a
tree and says how the call ended (`Delivery`).  Whatever encodes and numbers the calls is part of
the link.

The metastore's own exceptions come typed, so what matters about one is the slot in which its
method declares it.  The first slot of a method that creates something says that the object exists
already.  Every other exception is an error that shows the exception's text as the link writes it
for people who read logs (`ExceptionTexts`), and a failure that speaks of an existing object counts
as one that tells so.
-/

namespace MetastoreProbe

/-! ## The link -/

/-- How a call of a method ended. -/
inductive Delivery (method : Method) (α : Type)
  | value (a : α)
  /-- With an exception that the method declares, counted from 0. -/
  | exception (slot : Fin method.exceptions.length) (message : Option String)
  /-- Without an answer of the method: what the link says about it. -/
  | failure (text : String)

/-- A column as the link delivers it; each part can be missing. -/
structure FieldRecord where
  name : Option String := none
  type : Option String := none
  comment : Option String := none
  deriving DecidableEq, Repr

/-- The column that a record describes; what is missing is empty. -/
def FieldRecord.column (f : FieldRecord) : Column :=
  ⟨f.name.getD "", f.type.getD "", f.comment.getD ""⟩

/-- A plain connection with the state `σ`. -/
structure PlainLink (σ : Type) where
  createDatabase : WireValue → StateM σ (Delivery .createDatabase Unit)
  createTable : WireValue → StateM σ (Delivery .createTable Unit)
  getSchema : WireValue → StateM σ (Delivery .getSchema (List FieldRecord))
  /-- How the exceptions that it delivers are written. -/
  exceptions : ExceptionTexts := .debug

/-! ## Arguments -/

namespace PlainLink

/-- A column as an argument. -/
def column (c : Column) : WireValue :=
  .struct [(1, .string c.name), (2, .string c.type), (3, .string c.comment)]

/-- How and where the data of a table is stored. -/
def storage (t : Table) : WireValue :=
  .struct
    [(1, .list .struct (t.columns.map column)),
      (2, .string t.location),
      (3, .string t.inputFormat),
      (4, .string t.outputFormat),
      (5, .bool t.compressed),
      (6, .i32 (-1)),
      (7, .struct [(2, .string t.serializationLib)]),
      (12, .bool false)]

/-- The parameters of a table, if it has any. -/
def parameters (kind : TableKind) : List (Int16 × WireValue) :=
  match kind with
  | .managed => []
  | .external => [(9, .map .string .string [(.string "EXTERNAL", .string "TRUE")])]

/-- A table as an argument: the fields that are set, and no others. -/
def table (t : Table) (createTime : Int32) : WireValue :=
  .struct
    ([(1, .string t.name),
        (2, .string t.database),
        (4, .i32 createTime),
        (5, .i32 0),
        (6, .i32 0),
        (7, storage t),
        (8, .list .struct [])] ++
      parameters t.kind ++
      [(12, .string t.kind.tableType)])

end PlainLink

/-! ## The client -/

/-- The state of a client over a plain connection. -/
structure PlainClient (σ : Type) where
  link : σ
  closed : Bool := false
  deriving DecidableEq, Repr

namespace PlainClient

variable {σ α : Type}

/-- What a method does, as a user is told that it failed. -/
def action : Method → String
  | .createDatabase => "create database"
  | .createTable => "create table"
  | .getSchema => "get schema"

/-- The error for an exception of a method: it is named for what its text tells. -/
def remoteError (method : Method) (text : String) : Error :=
  let kind :=
    if MetastoreError.isAlreadyExistsKind text then "AlreadyExistsException"
    else "ThriftException"
  .metastore (.exception method.name kind text)

/-- The error for a call that the method did not answer. -/
def failed (method : Method) (text : String) : Error :=
  .metastore (.transport (.action (action method) text))

/-- What became of the object that a method was to create. -/
def createOutcome (exceptions : ExceptionTexts) (method : Method) :
    Delivery method Unit → Except Error CreateOutcome
  | .value () => .ok .created
  | .exception slot message =>
    if slot.val = 0 then .ok .alreadyExisted
    else .error (remoteError method (exceptions.text method slot message))
  | .failure text =>
    if MetastoreError.isAlreadyExistsKind text then .ok .alreadyExisted
    else .error (failed method text)

/-- The schema that was delivered. -/
def schemaOutcome (exceptions : ExceptionTexts) :
    Delivery .getSchema (List FieldRecord) → Except Error Schema
  | .value fields => .ok ⟨fields.map FieldRecord.column⟩
  | .exception slot message =>
    .error (remoteError .getSchema (exceptions.text .getSchema slot message))
  | .failure text => .error (failed .getSchema text)

/-- Makes a call, unless the client is closed. -/
def call {δ : Type} (send : StateM σ δ) (outcome : δ → Except Error α) :
    EStateM Error (PlainClient σ) α := fun c =>
  if c.closed then .error (.metastore .closed) c
  else
    let (delivery, link) := send c.link
    match outcome delivery with
    | .ok a => .ok a { c with link }
    | .error e => .error e { c with link }

/-- Closes the client; closing a second time does nothing. -/
def close : EStateM Error (PlainClient σ) Unit := fun c =>
  .ok () { c with closed := true }

/-- The operations of the client; the tables that it creates carry the time `now`. -/
def client (link : PlainLink σ) (now : Int32) : Client (PlainClient σ) where
  transport := "plain"
  createDatabase name :=
    call (link.createDatabase (.struct [(1, .struct [(1, .string name)])]))
      (createOutcome link.exceptions .createDatabase)
  createTable table :=
    call (link.createTable (.struct [(1, PlainLink.table table now)]))
      (createOutcome link.exceptions .createTable)
  getSchema database table :=
    call (link.getSchema (.struct [(1, .string database), (2, .string table)]))
      (schemaOutcome link.exceptions)
  close := close

end PlainClient

end MetastoreProbe
