import MetastoreProbe.Wire.Writer

/-!
# Values on the wire

`WireValue` is a value of the binary protocol as a tree: what a struct holds, without the bytes.
`WireValue.encode` writes it, its type tag apart, since the tag stands in front of a field and is
shared by the elements of a container.
-/

namespace MetastoreProbe

/-- A value of the binary protocol. -/
inductive WireValue
  | bool (b : Bool)
  | i08 (n : Int8)
  | i16 (n : Int16)
  | i32 (n : Int32)
  | i64 (n : Int64)
  /-- A number of eight bytes, kept as its bits. -/
  | double (bits : UInt64)
  | string (s : String)
  /-- The fields with their ids, in the order in which they are written. -/
  | struct (fields : List (Int16 × WireValue))
  | list (type : WireType) (elements : List WireValue)
  | set (type : WireType) (elements : List WireValue)
  | map (key value : WireType) (entries : List (WireValue × WireValue))

namespace WireValue

/-- The type of a value. -/
def type : WireValue → WireType
  | bool _ => .bool
  | i08 _ => .i08
  | i16 _ => .i16
  | i32 _ => .i32
  | i64 _ => .i64
  | double _ => .double
  | string _ => .string
  | struct _ => .struct
  | list _ _ => .list
  | set _ _ => .set
  | map _ _ _ => .map

/-- The bytes of a value. -/
def encode : WireValue → Bytes
  | bool b => Writer.bool b
  | i08 n => [n.toUInt8]
  | i16 n => Writer.i16 n
  | i32 n => Writer.i32 n
  | i64 n => BigEndian.encode 8 n.toUInt64.toNat
  | double bits => BigEndian.encode 8 bits.toNat
  | string s => Writer.string s
  | struct fields =>
    Writer.struct (fields.attach.map fun ⟨(id, value), _⟩ =>
      Writer.field value.type id value.encode)
  | list type elements | set type elements =>
    Writer.list type (elements.attach.map fun ⟨element, _⟩ => element.encode)
  | map key value entries =>
    Writer.map key value (entries.attach.map fun ⟨(k, v), _⟩ => (k.encode, v.encode))
termination_by v => sizeOf v
decreasing_by
  all_goals
    have size := List.sizeOf_lt_of_mem ‹_›
    simp at size ⊢
    omega

end WireValue

end MetastoreProbe
