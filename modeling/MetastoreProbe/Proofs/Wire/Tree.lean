import MetastoreProbe.Proofs.Wire.RoundTrip

/-!
# Values read back as trees

`Reader.valueWithin` takes a value off the front of the input as skipping does, and keeps all of it:
the fields with their ids, the elements with the type that is declared for them, the entries of a
map.  Nothing about the value has to be known beforehand but its type.

`Reader.valueWithin_encode` is the law: a value that fits is read back as the tree that it was
written from.  So the bytes of a value say where the value ends and what it is, and no value has
bytes that begin those of another one of its type (`WireValue.encode_append_inj`).
-/

namespace MetastoreProbe

namespace Reader

variable {α : Type}

/-! ## Reading trees -/

/-- The elements of a list or a set, behind the type that is declared for them. -/
def elements (read : WireType → Reader α) : Reader (WireType × List α) := do
  let t ← type
  let n ← count
  return (t, ← Scan.collect n (read t))

/-- The entries of a map, behind the types that are declared for its keys and its values. -/
def entries (read : WireType → Reader α) : Reader (WireType × WireType × List (α × α)) := do
  let k ← type
  let v ← type
  let n ← count
  return (k, v, ← Scan.collect n (do return (← read k, ← read v)))

/-- A value of a type, nesting at most `depth` levels. -/
def valueWithin : (depth : Nat) → WireType → Reader WireValue
  | 0, t => throw (.tooDeep t)
  | depth + 1, t =>
    match t with
    | .bool => do return .bool ((← byte) != 0)
    | .i08 => do return .i08 (← byte).toInt8
    | .i16 => do return .i16 (← i16)
    | .i32 => do return .i32 (← i32)
    | .i64 => do return .i64 (Int64.ofNat (← number 8))
    | .double => do return .double (UInt64.ofNat (← number 8))
    | .string => do return .string (← string)
    | .struct => do
      return .struct
        (← fields (fun t id taken => do return taken ++ [(id, ← valueWithin depth t)]) [])
    | .list => do
      let (t, es) ← elements (valueWithin depth)
      return .list t es
    | .set => do
      let (t, es) ← elements (valueWithin depth)
      return .set t es
    | .map => do
      let (k, v, es) ← entries (valueWithin depth)
      return .map k v es
    | .stop | .void | .utf8 | .utf16 => throw (.cannotSkip t)

/-! ## The law -/

/-- A number of eight bytes loses nothing. -/
theorem number_eight (n : UInt64) (rest : Bytes) :
    number 8 (BigEndian.encode 8 n.toNat ++ rest) = .ok n.toNat rest := by
  have small : n.toNat % BigEndian.weight 8 = n.toNat := Nat.mod_eq_of_lt n.toNat_lt
  rw [number_append, small]

section Containers

open WireValue (sizeLimit)

variable {read : WireType → Reader WireValue}

theorem elements_append {type : WireType} {es : List WireValue} (short : es.length < sizeLimit)
    (typed : ∀ e ∈ es, e.type = type)
    (reads : ∀ e ∈ es, ∀ rest, read e.type (e.encode ++ rest) = .ok e rest) (rest : Bytes) :
    elements read (Writer.list type (es.map WireValue.encode) ++ rest) = .ok (type, es) rest := by
  have each : ∀ e ∈ es, ∀ rest, read type (e.encode ++ rest) = .ok (id e) rest := by
    intro e mem rest
    rw [← typed e mem]
    exact reads e mem rest
  have all := Scan.collect_flatMap each rest
  rw [List.map_id] at all
  rw [elements, Writer.list, List.length_map, ← List.flatMap_def, List.cons_append,
    List.append_assoc, Scan.bind_apply_of_ok (type_cons type _),
    Scan.bind_apply_of_ok (count_append short _), Scan.bind_apply_of_ok all]
  rfl

theorem entries_append {key value : WireType} {es : List (WireValue × WireValue)}
    (short : es.length < sizeLimit) (typed : ∀ e ∈ es, e.1.type = key ∧ e.2.type = value)
    (readsKey : ∀ e ∈ es, ∀ rest, read e.1.type (e.1.encode ++ rest) = .ok e.1 rest)
    (readsValue : ∀ e ∈ es, ∀ rest, read e.2.type (e.2.encode ++ rest) = .ok e.2 rest)
    (rest : Bytes) :
    entries read (Writer.map key value (es.map fun e => (e.1.encode, e.2.encode)) ++ rest) =
      .ok (key, value, es) rest := by
  have each : ∀ e ∈ es, ∀ rest,
      (do return (← read key, ← read value) : Reader (WireValue × WireValue))
        ((e.1.encode ++ e.2.encode) ++ rest) = .ok (id e) rest := by
    intro e mem rest
    obtain ⟨keyType, valueType⟩ := typed e mem
    rw [← keyType, ← valueType, List.append_assoc, Scan.bind_apply_of_ok (readsKey e mem _),
      Scan.bind_apply_of_ok (readsValue e mem _)]
    rfl
  have all := Scan.collect_flatMap each rest
  rw [List.map_id] at all
  rw [entries, Writer.map, List.length_map, List.flatMap_map, List.cons_append, List.cons_append,
    List.append_assoc, Scan.bind_apply_of_ok (type_cons key _),
    Scan.bind_apply_of_ok (type_cons value _), Scan.bind_apply_of_ok (count_append short _),
    Scan.bind_apply_of_ok all]
  rfl

end Containers

/-- **A value is read back as the tree that it was written from.** -/
theorem valueWithin_encode {depth : Nat} {v : WireValue} (fits : v.Fits depth) (rest : Bytes) :
    valueWithin depth v.type (v.encode ++ rest) = .ok v rest := by
  -- As for skipping: each level of the value uses up one level of the depth.
  induction fits generalizing rest with
  | bool depth b =>
    rw [WireValue.encode]
    cases b <;> exact Scan.bind_apply_of_ok (byte_cons _ rest)
  | i08 depth n =>
    rw [WireValue.encode]
    refine (Scan.bind_apply_of_ok (byte_cons _ rest)).trans ?_
    rw [Int8.toInt8_toUInt8]
    rfl
  | i16 depth n =>
    rw [WireValue.encode]
    exact Scan.bind_apply_of_ok (i16_append n rest)
  | i32 depth n =>
    rw [WireValue.encode]
    exact Scan.bind_apply_of_ok (i32_append n rest)
  | i64 depth n =>
    have same : Int64.ofNat n.toUInt64.toNat = n := by
      show (UInt64.ofNat n.toUInt64.toNat).toInt64 = n
      rw [UInt64.ofNat_toNat, Int64.toInt64_toUInt64]
    rw [WireValue.encode]
    refine (Scan.bind_apply_of_ok (number_eight _ rest)).trans ?_
    rw [same]
    rfl
  | double depth bits =>
    rw [WireValue.encode]
    refine (Scan.bind_apply_of_ok (number_eight _ rest)).trans ?_
    rw [UInt64.ofNat_toNat]
    rfl
  | string depth short =>
    rw [WireValue.encode]
    exact Scan.bind_apply_of_ok (string_append short rest)
  | @struct depth fs fit ih =>
    have taken : fields (fun t id taken => do return taken ++ [(id, ← valueWithin depth t)]) []
        ((WireValue.struct fs).encode ++ rest) = .ok fs rest := by
      refine (fields_encode (fun taken f => taken ++ [f]) ?_ [] rest).trans ?_
      · intro f mem taken rest
        exact Scan.bind_apply_of_ok (ih f mem rest)
      · simp [← List.flatMap_def]
    exact Scan.bind_apply_of_ok taken
  | list short typed fit ih =>
    rw [WireValue.encode_list]
    exact Scan.bind_apply_of_ok (elements_append short typed ih rest)
  | set short typed fit ih =>
    rw [WireValue.encode_set]
    exact Scan.bind_apply_of_ok (elements_append short typed ih rest)
  | map short typed fitKey fitValue ihKey ihValue =>
    rw [WireValue.encode_map]
    exact Scan.bind_apply_of_ok (entries_append short typed ihKey ihValue rest)

end Reader

/-- **The bytes of a value say where it ends and what it is**, its type being known. -/
theorem WireValue.encode_append_inj {depth : Nat} {v w : WireValue} (fits : v.Fits depth)
    (fits' : w.Fits depth) (sameType : v.type = w.type) {rest rest' : Bytes}
    (same : v.encode ++ rest = w.encode ++ rest') : v = w ∧ rest = rest' := by
  have read := Reader.valueWithin_encode fits rest
  have read' := Reader.valueWithin_encode fits' rest'
  rw [← same, ← sameType, read] at read'
  cases read'
  exact ⟨rfl, rfl⟩

end MetastoreProbe
