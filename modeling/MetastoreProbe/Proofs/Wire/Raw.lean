import MetastoreProbe.Proofs.Wire.Fields
import MetastoreProbe.Proofs.Wire.RoundTrip

/-!
# Raw fields

A `RawField` is a field of a struct as it stands there: the type that is declared for it, its id,
and the bytes of its value, whatever they spell.  `Reader.fields_eq_ok_iff_raw` says that a struct
is read just where it is written as a list of raw fields and the step of the reader gets through
each of them, taking all of its value and nothing behind it.

A law about declared types is stated over raw fields: it exchanges the type of one field and leaves
its value and the other fields as they stand.
-/

namespace MetastoreProbe

/-- A field as it stands in a struct. -/
structure RawField where
  /-- The type that is declared for the value. -/
  type : WireType
  id : Int16
  /-- The bytes of the value. -/
  value : Bytes
  deriving DecidableEq, Repr

/-- The bytes of a field. -/
def RawField.bytes (f : RawField) : Bytes := Writer.field f.type f.id f.value

/-- The field with another type declared for its value. -/
def RawField.declare (f : RawField) (t : WireType) : RawField := { f with type := t }

/-- The field of a container with another type declared for its elements. -/
def RawField.declareElements (f : RawField) (t : WireType) : RawField :=
  { f with value := t.code :: f.value.tail }

/-- The bytes of a struct with the given fields. -/
def RawField.struct (fs : List RawField) : Bytes := Writer.struct (fs.map bytes)

theorem RawField.struct_cons_append (f : RawField) (fs : List RawField) (rest : Bytes) :
    struct (f :: fs) ++ rest =
      f.type.code :: (Writer.i16 f.id ++ (f.value ++ (struct fs ++ rest))) := by
  simp only [struct, Writer.struct, List.map_cons, List.flatten_cons, bytes, Writer.field,
    List.cons_append, List.append_assoc]

/-- The value of a field is no longer than the struct that the field stands in. -/
theorem RawField.length_value_le {f : RawField} {fs : List RawField} (mem : f ∈ fs) :
    f.value.length ≤ (struct fs).length := by
  induction fs with
  | nil => cases mem
  | cons g fs ih =>
    have longer := congrArg List.length (struct_cons_append g fs [])
    simp only [List.append_nil, List.length_cons, List.length_append] at longer
    rcases List.mem_cons.1 mem with rfl | later
    · omega
    · have bound := ih later
      omega

/-- Of the fields, which are those before it, itself and those after it, the field is the last one
of its kind. -/
structure IsLast (Kind : RawField → Prop) (fs before : List RawField) (f : RawField)
    (after : List RawField) : Prop where
  split : fs = before ++ f :: after
  kind : Kind f
  last : ∀ g ∈ after, ¬ Kind g

theorem IsLast.cons {Kind : RawField → Prop} {fs before after : List RawField} {f : RawField}
    (h : IsLast Kind fs before f after) (g : RawField) :
    IsLast Kind (g :: fs) (g :: before) f after where
  split := congrArg (g :: ·) h.split
  kind := h.kind
  last := h.last

/-! ## What was written where something is read -/

theorem WireType.code_of_ofCode? {b : UInt8} {t : WireType} (h : ofCode? b = some t) :
    t.code = b := by
  simpa using List.find?_some h

namespace Reader

variable {σ : Type} {step : WireType → Int16 → σ → Reader σ}

theorem type_eq_ok {input rest : Bytes} {t : WireType} (h : type input = .ok t rest) :
    input = t.code :: rest := by
  obtain ⟨code, afterCode, first, known⟩ := Scan.bind_eq_ok_iff.1 h
  cases input with
  | nil => cases first
  | cons b input =>
    cases first
    cases found : WireType.ofCode? code with
    | none => simp [found] at known
    | some t' =>
      simp only [found] at known
      cases known
      rw [WireType.code_of_ofCode? found]

theorem exists_of_number {k n : Nat} {input rest : Bytes} (h : number k input = .ok n rest) :
    ∃ digits, digits.length = k ∧ n = BigEndian.decode digits ∧ input = digits ++ rest := by
  obtain ⟨digits, middle, taken, decoded⟩ := Scan.bind_eq_ok_iff.1 h
  obtain ⟨length, rfl⟩ := Scan.take_eq_ok_iff.1 taken
  cases decoded
  exact ⟨digits, length, rfl, rfl⟩

theorem i16_eq_ok {input rest : Bytes} {n : Int16} (h : i16 input = .ok n rest) :
    input = Writer.i16 n ++ rest := by
  obtain ⟨number, middle, read, kept⟩ := Scan.bind_eq_ok_iff.1 h
  obtain ⟨digits, two, rfl, rfl⟩ := exists_of_number read
  cases kept
  have bound : BigEndian.decode digits < 65536 := by
    have := BigEndian.decode_lt digits
    rwa [two] at this
  have same : (Int16.ofNat (BigEndian.decode digits)).toUInt16.toNat = BigEndian.decode digits := by
    rw [Int16.toUInt16_ofNat', UInt16.toNat_ofNat_of_lt' bound]
  rw [Writer.i16, same, BigEndian.encode_decode two]

theorem i32_eq_ok {input rest : Bytes} {n : Int32} (h : i32 input = .ok n rest) :
    input = Writer.i32 n ++ rest := by
  obtain ⟨number, middle, read, kept⟩ := Scan.bind_eq_ok_iff.1 h
  obtain ⟨digits, four, rfl, rfl⟩ := exists_of_number read
  cases kept
  have bound : BigEndian.decode digits < 4294967296 := by
    have := BigEndian.decode_lt digits
    rwa [four] at this
  have same : (Int32.ofNat (BigEndian.decode digits)).toUInt32.toNat = BigEndian.decode digits := by
    rw [Int32.toUInt32_ofNat', UInt32.toNat_ofNat_of_lt' bound]
  rw [Writer.i32, same, BigEndian.encode_decode four]

theorem fieldHead_eq_stop {input rest : Bytes} (h : fieldHead input = .ok .stop rest) :
    input = WireType.stop.code :: rest := by
  obtain ⟨t, body, tag, read⟩ := Scan.bind_eq_ok_iff.1 h
  have opened := type_eq_ok tag
  split at read
  · cases read
    exact opened
  · obtain ⟨id, middle, -, kept⟩ := Scan.bind_eq_ok_iff.1 read
    cases kept

theorem fieldHead_eq_field {input rest : Bytes} {t : WireType} {id : Int16}
    (h : fieldHead input = .ok (.field t id) rest) :
    t ≠ .stop ∧ input = t.code :: (Writer.i16 id ++ rest) := by
  obtain ⟨t', body, tag, read⟩ := Scan.bind_eq_ok_iff.1 h
  have opened := type_eq_ok tag
  split at read
  · cases read
  · next goesOn =>
    obtain ⟨id', middle, number, kept⟩ := Scan.bind_eq_ok_iff.1 read
    cases kept
    refine ⟨goesOn, ?_⟩
    rw [opened, i16_eq_ok number]

/-! ## Getting through the fields -/

/-- The step gets through the fields one after the other, each of them whole.  It starts in the
first state and ends in the second one. -/
inductive TakesRaw (step : WireType → Int16 → σ → Reader σ) : σ → List RawField → σ → Prop
  | nil (s : σ) : TakesRaw step s [] s
  | cons {s s' s'' : σ} {f : RawField} {fs : List RawField} (goesOn : f.type ≠ .stop)
    (whole : step f.type f.id s f.value = .ok s' []) (more : TakesRaw step s' fs s'') :
    TakesRaw step s (f :: fs) s''

theorem takesRaw_append {s s'' : σ} {fs gs : List RawField} :
    TakesRaw step s (fs ++ gs) s'' ↔ ∃ s', TakesRaw step s fs s' ∧ TakesRaw step s' gs s'' := by
  induction fs generalizing s with
  | nil =>
    constructor
    · exact fun takes => ⟨s, .nil s, takes⟩
    · rintro ⟨s', none, takes⟩
      cases none
      exact takes
  | cons f fs ih =>
    constructor
    · intro takes
      cases takes with
      | cons goesOn whole more =>
        obtain ⟨s', first, others⟩ := ih.1 more
        exact ⟨s', .cons goesOn whole first, others⟩
    · rintro ⟨s', first, others⟩
      cases first with
      | cons goesOn whole more => exact .cons goesOn whole (ih.2 ⟨s', more, others⟩)

/-- A field can be exchanged for one that the step takes in the same way. -/
theorem TakesRaw.exchange {s s' : σ} {before after : List RawField} {f g : RawField}
    (takes : TakesRaw step s (before ++ f :: after) s') (goesOn : g.type ≠ .stop)
    (same : ∀ s, step g.type g.id s g.value = step f.type f.id s f.value) :
    TakesRaw step s (before ++ g :: after) s' := by
  obtain ⟨between, first, others⟩ := takesRaw_append.1 takes
  cases others with
  | cons _ whole more =>
    rw [← same] at whole
    exact takesRaw_append.2 ⟨between, first, .cons goesOn whole more⟩

/-- **What the state holds was there at first or comes from the last field that sets it.** -/
theorem TakesRaw.exists_last {β : Type} {get : σ → Option β} {Sets : RawField → Prop}
    (keeps : ∀ f s s', ¬ Sets f → step f.type f.id s f.value = .ok s' [] → get s' = get s)
    {s s' : σ} {fs : List RawField} (takes : TakesRaw step s fs s') {b : β}
    (held : get s' = some b) :
    get s = some b ∨
      ∃ before f after between next, IsLast Sets fs before f after ∧
        step f.type f.id between f.value = .ok next [] ∧ get next = some b := by
  suffices h : get s = some b ∧ (∀ f ∈ fs, ¬ Sets f) ∨
      ∃ before f after between next, IsLast Sets fs before f after ∧
        step f.type f.id between f.value = .ok next [] ∧ get next = some b from
    h.imp_left And.left
  induction takes with
  | nil s => exact .inl ⟨held, nofun⟩
  | @cons s s' _ f fs goesOn whole more ih =>
    rcases ih held with ⟨kept, none⟩ | ⟨before, g, after, between, next, last, read⟩
    · by_cases sets : Sets f
      · exact .inr ⟨[], f, fs, s, s', ⟨rfl, sets, none⟩, whole, kept⟩
      · have same : get s' = get s := keeps f s s' sets whole
        exact .inl ⟨same ▸ kept, List.forall_mem_cons.2 ⟨sets, none⟩⟩
    · exact .inr ⟨f :: before, g, after, between, next, last.cons f, read⟩

/-- What a step takes whole, it takes before any rest. -/
theorem ok_append_of_whole (accounts : ∀ t id s, Accounts (step t id s)) {t : WireType} {id : Int16}
    {s s' : σ} {value : Bytes} (whole : step t id s value = .ok s' []) (rest : Bytes) :
    step t id s (value ++ rest) = .ok s' rest := by
  obtain ⟨taken, split, again⟩ := (accounts t id s value).ok whole
  rw [List.append_nil] at split
  rw [split]
  exact again rest

theorem exists_raw_of_takesFields (accounts : ∀ t id s, Accounts (step t id s)) {s s' : σ}
    {input rest : Bytes} (takes : TakesFields step s input s' rest) :
    ∃ fs, input = RawField.struct fs ++ rest ∧ TakesRaw step s fs s' := by
  induction takes with
  | stop head => exact ⟨[], fieldHead_eq_stop head, .nil _⟩
  | @field s _ _ t id _ _ _ _ head value more ih =>
    obtain ⟨fs, rfl, others⟩ := ih
    obtain ⟨goesOn, rfl⟩ := fieldHead_eq_field head
    obtain ⟨taken, rfl, again⟩ := (accounts t id s _).ok value
    have whole := again []
    rw [List.append_nil] at whole
    refine ⟨⟨t, id, taken⟩ :: fs, ?_, .cons goesOn whole others⟩
    rw [RawField.struct_cons_append]

theorem fields_of_takesRaw (accounts : ∀ t id s, Accounts (step t id s)) {s s' : σ}
    {fs : List RawField} (takes : TakesRaw step s fs s') (rest : Bytes) :
    TakesFields step s (RawField.struct fs ++ rest) s' rest := by
  induction takes with
  | nil s => exact .stop (fieldHead_stop rest)
  | @cons s _ _ f fs goesOn whole more ih =>
    rw [RawField.struct_cons_append]
    exact .field (fieldHead_cons goesOn f.id _) (ok_append_of_whole accounts whole _) ih

/-- **A struct is read just where raw fields stand that the step gets through.** -/
theorem fields_eq_ok_iff_raw (accounts : ∀ t id s, Accounts (step t id s)) {s s' : σ}
    {input rest : Bytes} :
    fields step s input = .ok s' rest ↔
      ∃ fs, input = RawField.struct fs ++ rest ∧ TakesRaw step s fs s' := by
  rw [fields_eq_ok_iff accounts]
  constructor
  · exact exists_raw_of_takesFields accounts
  · rintro ⟨fs, rfl, takes⟩
    exact fields_of_takesRaw accounts takes rest

end Reader

end MetastoreProbe
