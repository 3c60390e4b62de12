import MetastoreProbe.Scan
import MetastoreProbe.Wire.Fault

/-!
# Reading the binary protocol

A `Reader` takes values of the binary protocol from the front of a run of bytes.  Numbers are
big-endian; a string is a length and that many bytes of UTF-8; a struct is a sequence of fields,
each with a type tag and an id, closed by a stop tag.

`Reader.fields` reads a struct field by field and hands each to a step that reads its value.  What
a field means is the step's business: it sees the declared type and the id, and must take the
field's value from the input.
-/

namespace MetastoreProbe

/-- Reads from the front of a run of bytes. -/
abbrev Reader (α : Type) : Type := Scan UInt8 DecodeFault α

namespace Reader

variable {σ : Type}

/-- One byte. -/
def byte : Reader UInt8 := Scan.next .endOfInput

/-- `n` bytes. -/
def bytes (n : Nat) : Reader Bytes := Scan.take n .endOfInput

/-- A number of `k` bytes. -/
def number (k : Nat) : Reader Nat := do
  return BigEndian.decode (← bytes k)

/-- A signed number of two bytes. -/
def i16 : Reader Int16 := do
  return Int16.ofNat (← number 2)

/-- A signed number of four bytes. -/
def i32 : Reader Int32 := do
  return Int32.ofNat (← number 4)

/-- A string. -/
def string : Reader String := do
  let length := (← i32).toInt
  if length < 0 then
    throw .negativeLength
  else
    match Utf8.decode (← bytes length.toNat) with
    | .ok s => return s
    | .error fault => throw (.invalidText fault)

/-- A type tag. -/
def type : Reader WireType := do
  let code ← byte
  match WireType.ofCode? code with
  | some t => return t
  | none => throw (.unknownType code)

/-- The number of elements of a container.  A declared number below zero means none. -/
def count : Reader Nat := do
  return (← i32).toInt.toNat

/-- What stands before the value of a field, or in place of a field. -/
inductive FieldHead
  | stop
  | field (type : WireType) (id : Int16)
  deriving DecidableEq, Repr

/-- The head of a field. -/
def fieldHead : Reader FieldHead := do
  match ← type with
  | .stop => return .stop
  | t => return .field t (← i16)

/-- A struct: each field is read by `step`, which changes the state that the fields build up. -/
def fields (step : WireType → Int16 → σ → Reader σ) (s : σ) : Reader σ :=
  Scan.iterate .endOfInput
    (fun s => do
      match ← fieldHead with
      | .stop => return .inr s
      | .field t id => return .inl (← step t id s))
    s

/-! ## Skipping -/

/-- How deeply a skipped value may nest. -/
def maxSkipDepth : Nat := 64

/-- Takes a value of a type without keeping it, nesting at most `depth` levels.  Text is checked
even where it is not kept. -/
def skipWithin : (depth : Nat) → WireType → Reader Unit
  | 0, t => throw (.tooDeep t)
  | depth + 1, t =>
    match t with
    | .bool | .i08 => discard byte
    | .i16 => discard (bytes 2)
    | .i32 => discard (bytes 4)
    | .i64 | .double => discard (bytes 8)
    | .string => discard string
    | .struct => fields (fun t _ _ => skipWithin depth t) ()
    | .list | .set => do
      let t ← type
      let n ← count
      Scan.times n (skipWithin depth t)
    | .map => do
      let k ← type
      let v ← type
      let n ← count
      Scan.times n (do skipWithin depth k; skipWithin depth v)
    | .stop | .void | .utf8 | .utf16 => throw (.cannotSkip t)

/-- Takes a value of a type without keeping it. -/
def skip (t : WireType) : Reader Unit := skipWithin maxSkipDepth t

/-! ## Messages -/

/-- What stands before the result of a message. -/
structure MessageHead where
  kind : MessageKind
  method : String
  sequence : Int32
  deriving DecidableEq, Repr

/-- The head of a message: the version, its kind, the method it belongs to, and its number. -/
def messageHead : Reader MessageHead := do
  match ← bytes 4 with
  | [a, b, _, code] =>
    if a ≠ 0x80 ∨ b ≠ 0x01 then
      throw (.badVersion a b)
    else
      match MessageKind.ofCode? code with
      | none => throw (.unknownMessageKind code)
      | some kind => return { kind, method := ← string, sequence := ← i32 }
  | _ => throw .endOfInput

end Reader

end MetastoreProbe
