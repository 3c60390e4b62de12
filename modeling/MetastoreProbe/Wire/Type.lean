/-!
# Wire types

The binary protocol tags every value with one byte that tells its type.  `WireType.ofCode?` is
defined on the codes that stand for a type; the code of `stop` ends the fields of a struct.
-/

namespace MetastoreProbe

/-- The type of a value on the wire. -/
inductive WireType
  | stop | void | bool | i08 | double | i16 | i32 | i64
  | string | struct | map | set | list | utf8 | utf16
  deriving DecidableEq, Repr

namespace WireType

/-- The byte that stands for a type. -/
def code : WireType → UInt8
  | stop => 0
  | void => 1
  | bool => 2
  | i08 => 3
  | double => 4
  | i16 => 6
  | i32 => 8
  | i64 => 10
  | string => 11
  | struct => 12
  | map => 13
  | set => 14
  | list => 15
  | utf8 => 16
  | utf16 => 17

/-- The types that a byte can stand for. -/
def all : List WireType :=
  [stop, void, bool, i08, double, i16, i32, i64, string, struct, map, set, list, utf8, utf16]

/-- The type that a byte stands for. -/
def ofCode? (b : UInt8) : Option WireType :=
  all.find? (fun t => t.code = b)

/-- The name of a type in messages. -/
def name : WireType → String
  | stop => "Stop"
  | void => "Void"
  | bool => "Bool"
  | i08 => "I08"
  | double => "Double"
  | i16 => "I16"
  | i32 => "I32"
  | i64 => "I64"
  | string => "String"
  | struct => "Struct"
  | map => "Map"
  | set => "Set"
  | list => "List"
  | utf8 => "Utf8"
  | utf16 => "Utf16"

@[simp] theorem ofCode?_code (t : WireType) : ofCode? t.code = some t := by
  cases t <;> decide

end WireType

/-- What a message is. -/
inductive MessageKind
  | call
  | reply
  /-- The server could not serve the call. -/
  | exception
  | oneWay
  deriving DecidableEq, Repr

namespace MessageKind

/-- The byte that stands for a kind of message. -/
def code : MessageKind → UInt8
  | call => 1
  | reply => 2
  | exception => 3
  | oneWay => 4

/-- The kind of message that a byte stands for. -/
def ofCode? (b : UInt8) : Option MessageKind :=
  [call, reply, exception, oneWay].find? (fun k => k.code = b)

/-- The name of a kind of message. -/
def name : MessageKind → String
  | call => "Call"
  | reply => "Reply"
  | exception => "Exception"
  | oneWay => "OneWay"

@[simp] theorem ofCode?_code (k : MessageKind) : ofCode? k.code = some k := by
  cases k <;> decide

end MessageKind

end MetastoreProbe
