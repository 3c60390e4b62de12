import MetastoreProbe.Text.Utf8
import MetastoreProbe.Wire.Type

/-!
# Writing the binary protocol

The bytes of the values that requests are made of, in the form in which `Reader` takes them.
Writing is a function to bytes, so that the bytes of a struct are those of its fields in order.
-/

namespace MetastoreProbe

namespace Writer

/-- A signed number of two bytes. -/
def i16 (n : Int16) : Bytes := BigEndian.encode 2 n.toUInt16.toNat

/-- A signed number of four bytes. -/
def i32 (n : Int32) : Bytes := BigEndian.encode 4 n.toUInt32.toNat

/-- A truth value. -/
def bool (b : Bool) : Bytes := [if b then 1 else 0]

/-- A string: the number of its bytes, and its bytes. -/
def string (s : String) : Bytes :=
  let spelled := Utf8.encode s
  BigEndian.encode 4 spelled.length ++ spelled

/-- A field of a struct. -/
def field (type : WireType) (id : Int16) (value : Bytes) : Bytes :=
  type.code :: (i16 id ++ value)

/-- A field that holds a string. -/
def stringField (id : Int16) (s : String) : Bytes := field .string id (string s)

/-- A field that holds a signed number of four bytes. -/
def i32Field (id : Int16) (n : Int32) : Bytes := field .i32 id (i32 n)

/-- A field that holds a truth value. -/
def boolField (id : Int16) (b : Bool) : Bytes := field .bool id (bool b)

/-- A struct: its fields, and the stop tag. -/
def struct (fields : List Bytes) : Bytes :=
  fields.flatten ++ [WireType.stop.code]

/-- A field that holds a struct. -/
def structField (id : Int16) (fields : List Bytes) : Bytes :=
  field .struct id (struct fields)

/-- A list: the type of its elements, their number, and the elements. -/
def list (type : WireType) (elements : List Bytes) : Bytes :=
  type.code :: (BigEndian.encode 4 elements.length ++ elements.flatten)

/-- A map with keys and values of the given types. -/
def map (key value : WireType) (entries : List (Bytes × Bytes)) : Bytes :=
  key.code :: value.code ::
    (BigEndian.encode 4 entries.length ++ entries.flatMap (fun (k, v) => k ++ v))

/-- The head of a message. -/
def messageHead (kind : MessageKind) (method : String) (sequence : Int32) : Bytes :=
  [0x80, 0x01, 0x00, kind.code] ++ string method ++ i32 sequence

end Writer

end MetastoreProbe
