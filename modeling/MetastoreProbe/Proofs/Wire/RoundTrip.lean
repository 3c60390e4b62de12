import MetastoreProbe.Proofs.Text.Utf8
import MetastoreProbe.Wire.Reader
import MetastoreProbe.Wire.Value

/-!
# Reading what was written

Each reader takes the bytes that the writer of the same kind of value gives, whatever stands behind
them, and leaves what stands behind them.  `Reader.fields_encode` says so of structs whose fields
are read one by one, and `Reader.skipWithin_encode` of values that are skipped: all that is asked
of a value is that it `Fits`, that is, that its sizes can be told in the bytes there are for them
and that it does not nest too deeply.
-/

namespace MetastoreProbe

/-! ## Values as bytes -/

namespace WireValue

/-- Sizes below this limit are told faithfully: a size has four bytes, and the first bit of them is
a sign. -/
def sizeLimit : Nat := 2147483648

theorem encode_struct (fields : List (Int16 × WireValue)) :
    (struct fields).encode =
      Writer.struct (fields.map fun f => Writer.field f.2.type f.1 f.2.encode) := by
  rw [encode, List.map_attach_eq_pmap, List.pmap_eq_map]

theorem encode_list (type : WireType) (elements : List WireValue) :
    (list type elements).encode = Writer.list type (elements.map encode) := by
  rw [encode, List.map_attach_eq_pmap, List.pmap_eq_map]

theorem encode_set (type : WireType) (elements : List WireValue) :
    (set type elements).encode = Writer.list type (elements.map encode) := by
  rw [encode, List.map_attach_eq_pmap, List.pmap_eq_map]

theorem encode_map (key value : WireType) (entries : List (WireValue × WireValue)) :
    (map key value entries).encode =
      Writer.map key value (entries.map fun e => (e.1.encode, e.2.encode)) := by
  rw [encode, List.map_attach_eq_pmap, List.pmap_eq_map]

/-- No value has the type that ends the fields of a struct. -/
theorem type_ne_stop (v : WireValue) : v.type ≠ .stop := by
  cases v <;> simp [type]

/-- The sizes of a value can be told, its elements have the types that are declared for them, and
it nests at most `depth` levels, a value without parts being one level. -/
inductive Fits : (depth : Nat) → WireValue → Prop
  | bool (depth : Nat) (b : Bool) : Fits (depth + 1) (.bool b)
  | i08 (depth : Nat) (n : Int8) : Fits (depth + 1) (.i08 n)
  | i16 (depth : Nat) (n : Int16) : Fits (depth + 1) (.i16 n)
  | i32 (depth : Nat) (n : Int32) : Fits (depth + 1) (.i32 n)
  | i64 (depth : Nat) (n : Int64) : Fits (depth + 1) (.i64 n)
  | double (depth : Nat) (bits : UInt64) : Fits (depth + 1) (.double bits)
  | string (depth : Nat) {s : String} (short : (Utf8.encode s).length < sizeLimit) :
    Fits (depth + 1) (.string s)
  | struct {depth : Nat} {fields : List (Int16 × WireValue)}
    (fit : ∀ f ∈ fields, Fits depth f.2) : Fits (depth + 1) (.struct fields)
  | list {depth : Nat} {type : WireType} {elements : List WireValue}
    (short : elements.length < sizeLimit) (typed : ∀ e ∈ elements, e.type = type)
    (fit : ∀ e ∈ elements, Fits depth e) : Fits (depth + 1) (.list type elements)
  | set {depth : Nat} {type : WireType} {elements : List WireValue}
    (short : elements.length < sizeLimit) (typed : ∀ e ∈ elements, e.type = type)
    (fit : ∀ e ∈ elements, Fits depth e) : Fits (depth + 1) (.set type elements)
  | map {depth : Nat} {key value : WireType} {entries : List (WireValue × WireValue)}
    (short : entries.length < sizeLimit)
    (typed : ∀ e ∈ entries, e.1.type = key ∧ e.2.type = value)
    (fitKey : ∀ e ∈ entries, Fits depth e.1) (fitValue : ∀ e ∈ entries, Fits depth e.2) :
    Fits (depth + 1) (.map key value entries)

end WireValue

namespace Reader

open WireValue (sizeLimit)

variable {σ : Type}

/-! ## Numbers, texts and heads -/

theorem byte_cons (b : UInt8) (rest : Bytes) : byte (b :: rest) = .ok b rest := rfl

theorem bytes_append {k : Nat} {taken : Bytes} (h : taken.length = k) (rest : Bytes) :
    bytes k (taken ++ rest) = .ok taken rest :=
  Scan.take_append h _ rest

theorem number_append (k n : Nat) (rest : Bytes) :
    number k (BigEndian.encode k n ++ rest) = .ok (n % BigEndian.weight k) rest := by
  have whole := bytes_append (BigEndian.length_encode k n) rest
  rw [number, Scan.bind_apply_of_ok whole, BigEndian.decode_encode]
  rfl

theorem i16_append (n : Int16) (rest : Bytes) : i16 (Writer.i16 n ++ rest) = .ok n rest := by
  have small : n.toUInt16.toNat % BigEndian.weight 2 = n.toUInt16.toNat :=
    Nat.mod_eq_of_lt n.toUInt16.toNat_lt
  have same : Int16.ofNat n.toUInt16.toNat = n := by
    show (UInt16.ofNat n.toUInt16.toNat).toInt16 = n
    rw [UInt16.ofNat_toNat, Int16.toInt16_toUInt16]
  rw [i16, Writer.i16, Scan.bind_apply_of_ok (number_append 2 _ rest), small, same]
  rfl

theorem i32_append (n : Int32) (rest : Bytes) : i32 (Writer.i32 n ++ rest) = .ok n rest := by
  have small : n.toUInt32.toNat % BigEndian.weight 4 = n.toUInt32.toNat :=
    Nat.mod_eq_of_lt n.toUInt32.toNat_lt
  have same : Int32.ofNat n.toUInt32.toNat = n := by
    show (UInt32.ofNat n.toUInt32.toNat).toInt32 = n
    rw [UInt32.ofNat_toNat, Int32.toInt32_toUInt32]
  rw [i32, Writer.i32, Scan.bind_apply_of_ok (number_append 4 _ rest), small, same]
  rfl

/-- A size below the limit is read as the number that it is. -/
theorem i32_size {n : Nat} (short : n < sizeLimit) (rest : Bytes) :
    i32 (BigEndian.encode 4 n ++ rest) = .ok (Int32.ofNat n) rest := by
  have small : n % BigEndian.weight 4 = n := by
    refine Nat.mod_eq_of_lt (Nat.lt_trans short ?_)
    decide
  rw [i32, Scan.bind_apply_of_ok (number_append 4 n rest), small]
  rfl

theorem toInt_size {n : Nat} (short : n < sizeLimit) : (Int32.ofNat n).toInt = n :=
  Int32.toInt_ofNat_of_lt short

theorem count_append {n : Nat} (short : n < sizeLimit) (rest : Bytes) :
    count (BigEndian.encode 4 n ++ rest) = .ok n rest := by
  rw [count, Scan.bind_apply_of_ok (i32_size short rest), toInt_size short]
  rfl

theorem string_append {s : String} (short : (Utf8.encode s).length < sizeLimit) (rest : Bytes) :
    string (Writer.string s ++ rest) = .ok s rest := by
  have length := i32_size short (Utf8.encode s ++ rest)
  have spelled : bytes (Utf8.encode s).length (Utf8.encode s ++ rest) = .ok _ rest :=
    bytes_append rfl rest
  have positive : ¬ ((Utf8.encode s).length : Int) < 0 := by omega
  rw [string, Writer.string, List.append_assoc, Scan.bind_apply_of_ok length, toInt_size short]
  simp only [if_neg positive, Int.toNat_natCast]
  rw [Scan.bind_apply_of_ok spelled, Utf8.decode_encode]
  rfl

theorem type_cons (t : WireType) (rest : Bytes) : type (t.code :: rest) = .ok t rest := by
  rw [type, Scan.bind_apply_of_ok (byte_cons t.code rest), WireType.ofCode?_code]
  rfl

theorem fieldHead_stop (rest : Bytes) :
    fieldHead (WireType.stop.code :: rest) = .ok .stop rest := by
  rw [fieldHead, Scan.bind_apply_of_ok (type_cons .stop rest)]
  rfl

theorem fieldHead_cons {t : WireType} (more : t ≠ .stop) (id : Int16) (rest : Bytes) :
    fieldHead (t.code :: (Writer.i16 id ++ rest)) = .ok (.field t id) rest := by
  have head := type_cons t (Writer.i16 id ++ rest)
  rw [fieldHead, Scan.bind_apply_of_ok head]
  split
  · exact absurd rfl more
  · rw [Scan.bind_apply_of_ok (i16_append id rest)]
    rfl

/-- The head of a message is read whole, whatever its name and number. -/
theorem messageHead_append (kind : MessageKind) {method : String}
    (short : (Utf8.encode method).length < sizeLimit) (sequence : Int32) (rest : Bytes) :
    messageHead (Writer.messageHead kind method sequence ++ rest) =
      .ok ⟨kind, method, sequence⟩ rest := by
  have version : bytes 4 (Writer.messageHead kind method sequence ++ rest) =
      .ok [0x80, 0x01, 0x00, kind.code]
        (Writer.string method ++ (Writer.i32 sequence ++ rest)) := by
    have four : [0x80, 0x01, 0x00, kind.code].length = 4 := rfl
    rw [Writer.messageHead, List.append_assoc, List.append_assoc]
    exact bytes_append four _
  rw [messageHead, Scan.bind_apply_of_ok version]
  simp only [ne_eq, not_true_eq_false, or_self, if_false, MessageKind.ofCode?_code]
  rw [Scan.bind_apply_of_ok (string_append short _),
    Scan.bind_apply_of_ok (i32_append sequence rest)]
  rfl

/-! ## Structs -/

/-- **A struct is read field by field.**  Where `step` takes the bytes of each field and changes
the state by `update`, the whole struct changes it by all its fields in order. -/
theorem fields_encode {step : WireType → Int16 → σ → Reader σ}
    (update : σ → Int16 × WireValue → σ) {fs : List (Int16 × WireValue)}
    (h : ∀ f ∈ fs, ∀ s rest, step f.2.type f.1 s (f.2.encode ++ rest) = .ok (update s f) rest)
    (s : σ) (rest : Bytes) :
    fields step s ((WireValue.struct fs).encode ++ rest) = .ok (fs.foldl update s) rest := by
  rw [WireValue.encode_struct, Writer.struct, List.append_assoc]
  induction fs generalizing s with
  | nil =>
    refine Scan.iterate_of_inr ?_
    rw [List.map_nil, List.flatten_nil, List.nil_append, List.cons_append, List.nil_append,
      Scan.bind_apply_of_ok (fieldHead_stop rest)]
    rfl
  | cons f fs ih =>
    have others := ih fun g mem => h g (List.mem_cons_of_mem f mem)
    have head := fieldHead_cons f.2.type_ne_stop f.1
    have value := h f List.mem_cons_self s
    rw [List.map_cons, List.flatten_cons, List.foldl_cons, ← others]
    simp only [Writer.field, List.cons_append, List.append_assoc]
    refine Scan.iterate_of_inl ?_ ?_
    · rw [Scan.bind_apply_of_ok (head _)]
      dsimp only
      rw [Scan.bind_apply_of_ok (value _)]
      rfl
    · -- The tag alone makes the round shorten the input, whatever the value takes.
      simp only [List.length_cons, List.length_append]
      omega

/-! ## Skipping -/

section Skipping

variable {skip : WireType → Reader Unit}

/-- The elements of a list or a set are skipped one after the other, as the type says that stands
before them. -/
theorem skip_elements {type : WireType} {elements : List WireValue}
    (short : elements.length < sizeLimit) (typed : ∀ e ∈ elements, e.type = type)
    (skips : ∀ e ∈ elements, ∀ rest, skip e.type (e.encode ++ rest) = .ok () rest)
    (rest : Bytes) :
    (do
        let t ← Reader.type
        let n ← count
        Scan.times n (skip t)) (Writer.list type (elements.map WireValue.encode) ++ rest) =
      .ok () rest := by
  rw [Writer.list, List.length_map, ← List.flatMap_def, List.cons_append, List.append_assoc,
    Scan.bind_apply_of_ok (type_cons type _), Scan.bind_apply_of_ok (count_append short _)]
  refine Scan.times_flatMap ?_ rest
  intro e mem rest
  rw [← typed e mem]
  exact skips e mem rest

/-- The entries of a map are skipped one after the other, each key before its value. -/
theorem skip_entries {key value : WireType} {entries : List (WireValue × WireValue)}
    (short : entries.length < sizeLimit)
    (typed : ∀ e ∈ entries, e.1.type = key ∧ e.2.type = value)
    (skipsKey : ∀ e ∈ entries, ∀ rest, skip e.1.type (e.1.encode ++ rest) = .ok () rest)
    (skipsValue : ∀ e ∈ entries, ∀ rest, skip e.2.type (e.2.encode ++ rest) = .ok () rest)
    (rest : Bytes) :
    (do
        let k ← Reader.type
        let v ← Reader.type
        let n ← count
        Scan.times n (do skip k; skip v))
      (Writer.map key value
          (entries.map fun (e : WireValue × WireValue) => (e.1.encode, e.2.encode)) ++ rest) =
      .ok () rest := by
  rw [Writer.map, List.length_map, List.flatMap_map, List.cons_append, List.cons_append,
    List.append_assoc, Scan.bind_apply_of_ok (type_cons key _),
    Scan.bind_apply_of_ok (type_cons value _), Scan.bind_apply_of_ok (count_append short _)]
  refine Scan.times_flatMap ?_ rest
  intro e mem rest
  obtain ⟨keyType, valueType⟩ := typed e mem
  rw [← keyType, ← valueType, List.append_assoc, Scan.bind_apply_of_ok (skipsKey e mem _)]
  exact skipsValue e mem rest

end Skipping

/-- **Skipping a value takes exactly its bytes.** -/
theorem skipWithin_encode {depth : Nat} {v : WireValue} (fits : v.Fits depth) (rest : Bytes) :
    skipWithin depth v.type (v.encode ++ rest) = .ok () rest := by
  -- By induction on how the value fits: each level of the value uses up one level of the depth.
  induction fits generalizing rest with
  | bool | i08 =>
    rw [WireValue.encode]
    exact Scan.discard_apply_of_ok (byte_cons _ rest)
  | i16 =>
    rw [WireValue.encode]
    exact Scan.discard_apply_of_ok (bytes_append (BigEndian.length_encode 2 _) rest)
  | i32 =>
    rw [WireValue.encode]
    exact Scan.discard_apply_of_ok (bytes_append (BigEndian.length_encode 4 _) rest)
  | i64 | double =>
    rw [WireValue.encode]
    exact Scan.discard_apply_of_ok (bytes_append (BigEndian.length_encode 8 _) rest)
  | string depth short =>
    rw [WireValue.encode]
    exact Scan.discard_apply_of_ok (string_append short rest)
  | struct fit ih =>
    -- Nothing is kept of the fields, so the state that they build up is always the same.
    exact fields_encode (fun _ _ => ()) (fun f mem _ => ih f mem) () rest
  | list short typed fit ih =>
    rw [WireValue.encode_list]
    exact skip_elements short typed ih rest
  | set short typed fit ih =>
    rw [WireValue.encode_set]
    exact skip_elements short typed ih rest
  | map short typed fitKey fitValue ihKey ihValue =>
    rw [WireValue.encode_map]
    exact skip_entries short typed ihKey ihValue rest

end Reader

end MetastoreProbe
