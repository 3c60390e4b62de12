/-!
# TOML values

The values of the settings language, TOML 1.0.  A table remembers how it came to be
(`Origin`), because that decides whether later lines may add to it, and a list of tables written
with repeated headers is kept apart from an array of inline tables for the same reason.

Numbers with a fraction and points in time have no place in the settings; they are read, because a
document may hold them under keys that mean nothing here.
-/

namespace MetastoreProbe

namespace Toml

/-- Why a text is no document, or a document no settings. -/
inductive Fault
  | expected (what : String)
  | outOfRange (what : String)
  | tooDeep
  | duplicateKey (key : String)
  | notExtensible (key : String)
  | wrongType (wanted : String)
  /-- A name that is none of those that are known. -/
  | unknownName (name : String) (known : List String)
  deriving DecidableEq, Repr

/-- What a fault is, in one line unless a name has several. -/
def Fault.message : Fault → String
  | expected what => s!"expected {what}"
  | outOfRange what => s!"{what} out of range"
  | tooDeep => "nested too deeply"
  | duplicateKey key => s!"duplicate key {key}"
  | notExtensible key => s!"{key} cannot be extended"
  | wrongType wanted => s!"invalid type, expected {wanted}"
  | unknownName name known => s!"unknown name {name}, expected " ++ " or ".intercalate known

/-- How it is told that a text is no document, or a document no settings.  The text told is not made
here: it can show any part of the document, on as many lines as it likes. -/
abbrev Wording : Type := String → Fault → String

/-- A wording that shows nothing of the document but what the fault names. -/
def Wording.brief : Wording := fun _ fault => s!"TOML parse error: {fault.message}"

/-- A number with a fraction or an exponent. -/
inductive Real
  /-- The number `digits * 10 ^ exponent`, or its negative. -/
  | finite (negative : Bool) (digits : Nat) (exponent : Int)
  | infinite (negative : Bool)
  | notANumber
  deriving DecidableEq, Repr

/-- A day of the calendar. -/
structure Date where
  year : Nat
  month : Nat
  day : Nat
  deriving DecidableEq, Repr

/-- A time of the day; its second can be a leap second. -/
structure Time where
  hour : Nat
  minute : Nat
  second : Nat
  nanosecond : Nat
  deriving DecidableEq, Repr

/-- A day, a time, or both; with both there can be an offset from universal time, in minutes. -/
structure DateTime where
  date : Option Date := none
  time : Option Time := none
  offset : Option Int := none
  deriving DecidableEq, Repr

/-- How a table came to be. -/
inductive Origin
  /-- By a header of its own, or as the document itself. -/
  | header
  /-- As a parent of a table with a header. -/
  | parent
  /-- By a dotted key. -/
  | dotted
  /-- In braces. -/
  | inline
  /-- By a dotted key within braces. -/
  | inlineDotted
  deriving DecidableEq, Repr

namespace Origin

/-- Whether the table was made by a dotted key. -/
def isDotted : Origin → Bool
  | dotted | inlineDotted => true
  | header | parent | inline => false

/-- Whether the table was made along with another one. -/
def isImplicit : Origin → Bool
  | parent | dotted | inlineDotted => true
  | header | inline => false

end Origin

/-- A value. -/
inductive Value
  | string (s : String)
  | integer (n : Int)
  | real (r : Real)
  | boolean (b : Bool)
  | dateTime (d : DateTime)
  | array (items : List Value)
  | table (origin : Origin) (entries : List (String × Value))
  /-- The tables of a repeated header, the first one first. -/
  | tables (items : List (List (String × Value)))
  deriving Repr

/-- The entries of a table, in the order in which they were made. -/
abbrev Entries : Type := List (String × Value)

end Toml

end MetastoreProbe
