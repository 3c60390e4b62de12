import MetastoreProbe.Rpc.Method
import MetastoreProbe.Schema
import MetastoreProbe.Wire.Reader

/-!
# Replies

`Reply.decode` reads the reply to a call.  A message that says that the server could not serve the
call is taken first, whatever its name and number; any other message must be a reply to the method
and carry the number of the request.

The result is a struct.  Of several values the last one read counts, of several declared
exceptions too, and a declared exception counts more than a value.  The value of a method that
returns nothing may be anything that can be skipped.
-/

namespace MetastoreProbe

/-- An exception that the called method declares. -/
structure RemoteException where
  kind : String
  message : String
  deriving DecidableEq, Repr

/-- Whether the exception tells that the object exists already. -/
def RemoteException.isAlreadyExists (e : RemoteException) : Bool :=
  MetastoreError.isAlreadyExistsKind e.kind

/-- How the metastore answered: with a value, or with an exception that the method declares. -/
inductive Reply (α : Type)
  | value (a : α)
  | exception (e : RemoteException)
  deriving DecidableEq, Repr

namespace Reply

/-- An exception of the given kind: of its fields only the message is kept, the last one if there
are several. -/
def readException (kind : String) : Reader RemoteException := do
  let message ← Reader.fields
    (fun type id message =>
      if id = 1 ∧ type = .string then Reader.string
      else do
        Reader.skip type
        return message)
    ""
  return { kind, message }

/-- A column; what it lacks is empty, and what it has beyond a column's parts is skipped. -/
def readColumn : Reader Column :=
  Reader.fields
    (fun type id column =>
      match type, id.toInt with
      | .string, 1 => do return { column with name := ← Reader.string }
      | .string, 2 => do return { column with type := ← Reader.string }
      | .string, 3 => do return { column with comment := ← Reader.string }
      | _, _ => do
        Reader.skip type
        return column)
    ⟨"", "", ""⟩

/-- The columns of a schema.  The declared type of the elements is not looked at. -/
def readColumns : Reader (List Column) := do
  let _ ← Reader.type
  let n ← Reader.count
  Scan.collect n readColumn

/-- What a server says that could not serve a call.  The parts are read by their ids, whatever
types they declare. -/
def readApplicationFailure : Reader (ApplicationKind × String) :=
  Reader.fields
    (fun type id (kind, message) =>
      match id.toInt with
      | 1 => do return (kind, ← Reader.string)
      | 2 => do return (ApplicationKind.ofReceived (← Reader.i32).toInt, message)
      | _ => do
        Reader.skip type
        return (kind, message))
    (.unknown, "general remote error")

/-- What the fields of a result have given so far. -/
structure Result (α : Type) where
  value : Option α := none
  exception : Option RemoteException := none

/-- The struct of a result; `readValue` reads the field with the id 0, given its declared type. -/
def readResult {α : Type} (method : Method) (readValue : WireType → Reader α) :
    Reader (Result α) :=
  Reader.fields
    (fun type id result =>
      if id = 0 then do
        return { result with value := some (← readValue type) }
      else
        match method.exception? id with
        | some kind => do return { result with exception := some (← readException kind) }
        | none => do
          Reader.skip type
          return result)
    {}

/-- The reply to the request numbered `sequence`: its exception, or else its value if it has
one. -/
def read {α : Type} (method : Method) (sequence : Int32) (readValue : WireType → Reader α) :
    Reader (Reply (Option α)) := do
  let head ← Reader.messageHead
  match head.kind with
  | .exception =>
    let (kind, message) ← readApplicationFailure
    throw (.application kind message)
  | .call | .oneWay => throw (.unexpectedMessage method.name head.kind)
  | .reply =>
    if head.method ≠ method.name then
      throw (.wrongMethod method.name head.method)
    else if head.sequence ≠ sequence then
      throw (.wrongSequence sequence head.sequence)
    else
      let result ← readResult method readValue
      match result.exception with
      | some e => return .exception e
      | none => return .value result.value

/-- The reply of a method that returns nothing. -/
def readVoid (method : Method) (sequence : Int32) : Reader (Reply Unit) := do
  match ← read method sequence Reader.skip with
  | .exception e => return .exception e
  | .value _ => return .value ()

/-- The value of a reply with a schema, which must be a list. -/
def readSchemaValue (type : WireType) : Reader (List Column) :=
  if type = .list then readColumns else throw (.schemaNotList type)

/-- The reply of `get_schema`, which must have a value. -/
def readSchema (sequence : Int32) : Reader (Reply Schema) := do
  match ← read .getSchema sequence readSchemaValue with
  | .exception e => return .exception e
  | .value (some columns) => return .value ⟨columns⟩
  | .value none => throw .noSchema

/-- Decodes the reply of a method that returns nothing; bytes after it do not matter. -/
def decodeVoid (method : Method) (sequence : Int32) (bytes : Bytes) :
    Except DecodeFault (Reply Unit) :=
  (readVoid method sequence).valueOf bytes

/-- Decodes the reply of `get_schema`; bytes after it do not matter. -/
def decodeSchema (sequence : Int32) (bytes : Bytes) : Except DecodeFault (Reply Schema) :=
  (readSchema sequence).valueOf bytes

end Reply

end MetastoreProbe
