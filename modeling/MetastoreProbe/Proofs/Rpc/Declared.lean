import Mathlib.Data.List.Forall2
import MetastoreProbe.Proofs.Rpc.Correlation
import MetastoreProbe.Proofs.Wire.Raw

/-!
# Declared types in replies

Every value of a reply has a type tag in front of it, and what a decoder does with the value need
not go by that tag.  A `RawReply` is a reply as it stands, field by field, so that the tags can be
told from the bytes behind them.

`Reply.decode_declared_types` says of every reply which tags count.  Parts of a column and the
message of an exception are texts of fields that are declared strings, and columns come from a field
that is declared a list.  The tag of the list's elements and the tag of a declared exception do not
count: with any other tag in their place, the same columns and the same exception are decoded.
-/

namespace MetastoreProbe

/-! ## Replies as they stand -/

/-- A reply as it stands: its head, the fields of its result, and what follows. -/
structure RawReply where
  head : Bytes
  fields : List RawField
  rest : Bytes
  deriving DecidableEq, Repr

namespace RawReply

/-- The bytes of a reply. -/
def bytes (r : RawReply) : Bytes :=
  r.head ++ (RawField.struct r.fields ++ r.rest)

/-- The reply with other fields in its result. -/
def withFields (r : RawReply) (fields : List RawField) : RawReply := { r with fields }

end RawReply

namespace Reply

open Reader

variable {α : Type} {method : Method} {sequence : Int32} {bytes rest : Bytes}
  {readValue : WireType → Reader α}

/-- The reply belongs to the request, and the fields of its result, taken one after the other, give
that result. -/
structure GivesResult (method : Method) (sequence : Int32) (readValue : WireType → Reader α)
    (r : RawReply) (result : Result α) : Prop where
  head : ∀ more, messageHead (r.head ++ more) = .ok ⟨.reply, method.name, sequence⟩ more
  fields : TakesRaw (takeField method readValue) {} r.fields result

/-- **A reply is read just where it stands field by field.** -/
theorem read_eq_ok_iff_raw (accounts : ∀ t, Accounts (readValue t))
    {reply : Reply (Option α)} :
    read method sequence readValue bytes = .ok reply rest ↔
      ∃ r result, r.bytes = bytes ∧ r.rest = rest ∧
        GivesResult method sequence readValue r result ∧ reply = result.answer := by
  rw [read_eq_ok_iff]
  constructor
  · rintro ⟨body, result, opened, read, rfl⟩
    obtain ⟨head, rfl, again⟩ := (accounts_messageHead bytes).ok opened
    obtain ⟨fs, rfl, takes⟩ := (fields_eq_ok_iff_raw (accounts_takeField method accounts)).1 read
    exact ⟨⟨head, fs, rest⟩, result, rfl, rfl, ⟨again, takes⟩, rfl⟩
  · rintro ⟨r, result, rfl, rfl, ⟨head, takes⟩, rfl⟩
    refine ⟨_, result, head _, ?_, rfl⟩
    exact (fields_eq_ok_iff_raw (accounts_takeField method accounts)).2 ⟨_, rfl, takes⟩

/-- A field can be exchanged for one that is taken in the same way. -/
theorem GivesResult.exchange {r : RawReply} {result : Result α}
    (gives : GivesResult method sequence readValue r result) {before after : List RawField}
    {f g : RawField} (split : r.fields = before ++ f :: after) (goesOn : g.type ≠ .stop)
    (same : ∀ result, takeField method readValue g.type g.id result g.value =
      takeField method readValue f.type f.id result f.value) :
    GivesResult method sequence readValue (r.withFields (before ++ g :: after)) result where
  head := gives.head
  fields := by
    have takes := gives.fields
    rw [split] at takes
    exact takes.exchange goesOn same

/-! ## What was decoded -/

/-- Where the second reader makes `b` of `a` alone and takes nothing, `b` is decoded just where `a`
is read. -/
theorem valueOf_bind_eq_ok_iff {β : Type} {p : Reader α} {f : α → Reader β} {a : α} {b : β}
    (alone : ∀ a' input rest, f a' input = .ok b rest ↔ a' = a ∧ input = rest) :
    (p >>= f).valueOf bytes = .ok b ↔ ∃ rest, p bytes = .ok a rest := by
  rw [Scan.valueOf_eq_ok_iff]
  constructor
  · rintro ⟨rest, decoded⟩
    obtain ⟨a', middle, read, made⟩ := Scan.bind_eq_ok_iff.1 decoded
    obtain ⟨rfl, rfl⟩ := (alone a' middle rest).1 made
    exact ⟨middle, read⟩
  · rintro ⟨rest, read⟩
    exact ⟨rest, (Scan.bind_apply_of_ok read).trans ((alone a rest rest).2 ⟨rfl, rfl⟩)⟩

theorem decodeVoid_eq_exception_iff {e : RemoteException} :
    decodeVoid method sequence bytes = .ok (.exception e) ↔
      ∃ rest, read method sequence skip bytes = .ok (.exception e) rest := by
  refine valueOf_bind_eq_ok_iff fun reply input rest => ?_
  cases reply <;> simp

theorem decodeSchema_eq_exception_iff {e : RemoteException} :
    decodeSchema sequence bytes = .ok (.exception e) ↔
      ∃ rest, read .getSchema sequence readSchemaValue bytes = .ok (.exception e) rest := by
  refine valueOf_bind_eq_ok_iff fun reply input rest => ?_
  cases reply with
  | exception e' => simp
  | value columns => cases columns <;> simp

theorem decodeSchema_eq_value_iff {schema : Schema} :
    decodeSchema sequence bytes = .ok (.value schema) ↔
      ∃ rest, read .getSchema sequence readSchemaValue bytes =
        .ok (.value (some schema.columns)) rest := by
  obtain ⟨columns⟩ := schema
  refine valueOf_bind_eq_ok_iff fun reply input rest => ?_
  cases reply with
  | exception e => simp
  | value given => cases given <;> simp

theorem answer_eq_exception_iff {result : Result α} {e : RemoteException} :
    .exception e = result.answer ↔ result.exception = some e := by
  unfold Result.answer
  cases result.exception with
  | none => simp
  | some e' => simp [eq_comm]

theorem answer_eq_value_iff {result : Result α} {value : Option α} :
    .value value = result.answer ↔ result.exception = none ∧ result.value = value := by
  unfold Result.answer
  cases result.exception with
  | none => simp [eq_comm]
  | some e' => simp

/-! ## Texts -/

/-- The field has the given id, is declared a string and is that text. -/
structure IsText (id : Int16) (f : RawField) (s : String) : Prop where
  id : f.id = id
  type : f.type = .string
  value : Reader.string f.value = .ok s []

/-- The text is empty, or one of the fields is it. -/
def IsTextUnder (id : Int16) (fs : List RawField) (s : String) : Prop :=
  s = "" ∨ ∃ f ∈ fs, IsText id f s

/-- Each part of the column is a text under the id of the part. -/
structure IsColumnUnder (fs : List RawField) (c : Column) : Prop where
  name : IsTextUnder 1 fs c.name
  type : IsTextUnder 2 fs c.type
  comment : IsTextUnder 3 fs c.comment

/-- What a state holds is a text if each field leaves it as it was or is that text. -/
theorem isTextUnder_of_takesRaw {σ : Type} {step : WireType → Int16 → σ → Reader σ}
    (get : σ → String) {id : Int16}
    (sets : ∀ (f : RawField) (s s' : σ), step f.type f.id s f.value = .ok s' [] →
      get s' = get s ∨ IsText id f (get s'))
    {s s' : σ} {fs : List RawField} (takes : TakesRaw step s fs s') (empty : get s = "") :
    IsTextUnder id fs (get s') := by
  suffices h : get s' = get s ∨ ∃ f ∈ fs, IsText id f (get s') from
    h.imp_left fun kept => kept.trans empty
  clear empty
  induction takes with
  | nil s => exact .inl rfl
  | @cons s s' s'' f fs goesOn whole more ih =>
    rcases ih with kept | ⟨g, later, text⟩
    · rw [kept]
      exact (sets f s s' whole).imp_right fun text => ⟨f, List.mem_cons_self, text⟩
    · exact .inr ⟨g, List.mem_cons_of_mem f later, text⟩

/-! ## Exceptions -/

/-- The field has the id of an exception that the method declares. -/
def HoldsException (method : Method) (f : RawField) : Prop := method.exception? f.id ≠ none

/-- The field is that exception: its id is declared for the kind, and its value is a struct with the
message.  Nothing is said of the type that is declared for it. -/
structure IsException (method : Method) (f : RawField) (e : RemoteException) : Prop where
  declared : method.exception? f.id = some e.kind
  message : ∃ fs, f.value = RawField.struct fs ∧ IsTextUnder 1 fs e.message

theorem isException_of_readException {f : RawField} {kind : String} {e : RemoteException}
    (declared : method.exception? f.id = some kind)
    (read : readException kind f.value = .ok e []) : IsException method f e := by
  rw [readException_eq] at read
  obtain ⟨message, middle, read, kept⟩ := Scan.bind_eq_ok_iff.1 read
  cases kept
  obtain ⟨fs, whole, takes⟩ := (fields_eq_ok_iff_raw accounts_takeMessage).1 read
  rw [List.append_nil] at whole
  refine ⟨declared, fs, whole, ?_⟩
  refine isTextUnder_of_takesRaw (fun text => text) (fun f s s' taken => ?_) takes rfl
  unfold takeMessage at taken
  split at taken
  next text => exact .inr ⟨text.1, text.2, taken⟩
  next =>
    obtain ⟨_, middle, -, kept⟩ := Scan.bind_eq_ok_iff.1 taken
    cases kept
    exact .inl rfl

/-- An exception is set by the fields that hold exceptions. -/
theorem exception_of_takeField {t : WireType} {id : Int16} {input : Bytes} {s s' : Result α}
    (taken : takeField method readValue t id s input = .ok s' rest) :
    match method.exception? id with
    | some kind => ∃ e, readException kind input = .ok e rest ∧ s'.exception = some e
    | none => s'.exception = s.exception := by
  split
  next kind declared =>
    rw [takeField_of_declared declared] at taken
    obtain ⟨e, middle, read, kept⟩ := Scan.bind_eq_ok_iff.1 taken
    cases kept
    exact ⟨e, read, rfl⟩
  next undeclared =>
    unfold takeField at taken
    split at taken
    · obtain ⟨value, middle, -, kept⟩ := Scan.bind_eq_ok_iff.1 taken
      cases kept
      rfl
    · rw [undeclared] at taken
      obtain ⟨_, middle, -, kept⟩ := Scan.bind_eq_ok_iff.1 taken
      cases kept
      rfl

/-- The exception of a result comes from the last field that holds one. -/
theorem exists_isException_of_takesRaw {fs : List RawField} {result : Result α}
    {e : RemoteException} (takes : TakesRaw (takeField method readValue) {} fs result)
    (found : result.exception = some e) :
    ∃ before f after, IsLast (HoldsException method) fs before f after ∧
      IsException method f e := by
  have keeps : ∀ (f : RawField) (s s' : Result α), ¬ HoldsException method f →
      takeField method readValue f.type f.id s f.value = .ok s' [] →
      s'.exception = s.exception := by
    intro f s s' undeclared taken
    have kept := exception_of_takeField taken
    rwa [not_not.1 undeclared] at kept
  rcases takes.exists_last keeps found with none | ⟨before, f, after, s, s', last, taken, held⟩
  · cases none
  refine ⟨before, f, after, last, ?_⟩
  obtain ⟨kind, declared⟩ := Option.ne_none_iff_exists'.1 last.kind
  have set := exception_of_takeField taken
  rw [declared] at set
  obtain ⟨e', read, same⟩ := set
  cases same.symm.trans held
  exact isException_of_readException declared read

/-! ## Columns -/

/-- The field is that list of columns: it is declared a list, and as many structs stand in it as the
list has elements.  Nothing is said of the type that is declared for the elements. -/
structure IsColumns (f : RawField) (columns : List Column) : Prop where
  type : f.type = .list
  value : ∃ (element : WireType) (size : Int32) (structs : List (List RawField)),
    f.value = element.code :: (Writer.i32 size ++ structs.flatMap RawField.struct) ∧
      structs.length = size.toInt.toNat ∧ List.Forall₂ IsColumnUnder structs columns

/-- A field of a column sets the part whose id it has, and leaves the others. -/
theorem parts_of_takePart {f : RawField} {c c' : Column}
    (taken : takePart f.type f.id c f.value = .ok c' []) :
    (c'.name = c.name ∨ IsText 1 f c'.name) ∧ (c'.type = c.type ∨ IsText 2 f c'.type) ∧
      (c'.comment = c.comment ∨ IsText 3 f c'.comment) := by
  have number : ∀ n : Int16, f.id.toInt = n.toInt → f.id = n := fun n => Int16.toInt_inj.1
  generalize reader : takePart f.type f.id c = p at taken
  unfold takePart at reader
  split at reader
  next type id =>
    subst reader
    obtain ⟨name, middle, read, kept⟩ := Scan.bind_eq_ok_iff.1 taken
    cases kept
    exact ⟨.inr ⟨number 1 id, type, read⟩, .inl rfl, .inl rfl⟩
  next type id =>
    subst reader
    obtain ⟨type', middle, read, kept⟩ := Scan.bind_eq_ok_iff.1 taken
    cases kept
    exact ⟨.inl rfl, .inr ⟨number 2 id, type, read⟩, .inl rfl⟩
  next type id =>
    subst reader
    obtain ⟨comment, middle, read, kept⟩ := Scan.bind_eq_ok_iff.1 taken
    cases kept
    exact ⟨.inl rfl, .inl rfl, .inr ⟨number 3 id, type, read⟩⟩
  next =>
    subst reader
    obtain ⟨_, middle, -, kept⟩ := Scan.bind_eq_ok_iff.1 taken
    cases kept
    exact ⟨.inl rfl, .inl rfl, .inl rfl⟩

theorem exists_raw_of_readColumn {input : Bytes} {c : Column}
    (read : readColumn input = .ok c rest) :
    ∃ fs, input = RawField.struct fs ++ rest ∧ IsColumnUnder fs c := by
  rw [readColumn_eq] at read
  obtain ⟨fs, rfl, takes⟩ := (fields_eq_ok_iff_raw accounts_takePart).1 read
  refine ⟨fs, rfl, ?_, ?_, ?_⟩
  · exact isTextUnder_of_takesRaw Column.name (fun _ _ _ h => (parts_of_takePart h).1) takes rfl
  · exact isTextUnder_of_takesRaw Column.type (fun _ _ _ h => (parts_of_takePart h).2.1) takes rfl
  · exact
      isTextUnder_of_takesRaw Column.comment (fun _ _ _ h => (parts_of_takePart h).2.2) takes rfl

/-- Columns stand one behind the other. -/
theorem exists_raw_of_collect {n : Nat} {input : Bytes} {columns : List Column}
    (read : Scan.collect n readColumn input = .ok columns rest) :
    ∃ structs : List (List RawField), input = structs.flatMap RawField.struct ++ rest ∧
      structs.length = n ∧ List.Forall₂ IsColumnUnder structs columns := by
  induction n generalizing input columns with
  | zero =>
    cases read
    exact ⟨[], rfl, rfl, .nil⟩
  | succ n ih =>
    obtain ⟨c, middle, first, more⟩ := Scan.bind_eq_ok_iff.1 read
    obtain ⟨others, middle', others_eq, kept⟩ := Scan.bind_eq_ok_iff.1 more
    cases kept
    obtain ⟨fs, rfl, column⟩ := exists_raw_of_readColumn first
    obtain ⟨structs, rfl, length, columns⟩ := ih others_eq
    refine ⟨fs :: structs, ?_, congrArg (· + 1) length, .cons column columns⟩
    rw [List.flatMap_cons, List.append_assoc]

theorem isColumns_of_readSchemaValue {f : RawField} {columns : List Column}
    (read : readSchemaValue f.type f.value = .ok columns []) : IsColumns f columns := by
  unfold readSchemaValue at read
  split at read
  next list =>
    refine ⟨list, ?_⟩
    obtain ⟨element, afterElement, tag, read⟩ := Scan.bind_eq_ok_iff.1 read
    obtain ⟨n, afterSize, number, read⟩ := Scan.bind_eq_ok_iff.1 read
    obtain ⟨size, middle, sized, kept⟩ := Scan.bind_eq_ok_iff.1 number
    cases kept
    obtain ⟨structs, rfl, length, columns⟩ := exists_raw_of_collect read
    refine ⟨element, size, structs, ?_, length, columns⟩
    rw [type_eq_ok tag, i32_eq_ok sized, List.append_nil]
  next => cases read

/-- Columns are read in the same way whatever type is declared for the elements. -/
theorem readColumns_cons (t : WireType) (input : Bytes) :
    readColumns (t.code :: input) =
      (count >>= fun n => Scan.collect n readColumn : Reader (List Column)) input := by
  rw [readColumns, Scan.bind_apply_of_ok (type_cons t input)]

/-- Only the value of a result is set by the field with the id 0, and no other field sets it. -/
theorem value_of_takeField {t : WireType} {id : Int16} {input : Bytes} {s s' : Result α}
    (taken : takeField method readValue t id s input = .ok s' rest) :
    if id = 0 then ∃ value, readValue t input = .ok value rest ∧ s'.value = some value
    else s'.value = s.value := by
  unfold takeField at taken
  split at taken
  next zero =>
    obtain ⟨value, middle, read, kept⟩ := Scan.bind_eq_ok_iff.1 taken
    cases kept
    rw [if_pos zero]
    exact ⟨value, read, rfl⟩
  next other =>
    rw [if_neg other]
    cases found : method.exception? id <;> rw [found] at taken <;>
    · obtain ⟨_, middle, -, kept⟩ := Scan.bind_eq_ok_iff.1 taken
      cases kept
      rfl

/-- The value of a result comes from the last field with the id 0. -/
theorem exists_value_of_takesRaw {fs : List RawField} {result : Result α} {value : α}
    (takes : TakesRaw (takeField method readValue) {} fs result)
    (found : result.value = some value) :
    ∃ before f after, IsLast (·.id = 0) fs before f after ∧
      readValue f.type f.value = .ok value [] := by
  have keeps : ∀ (f : RawField) (s s' : Result α), ¬ f.id = 0 →
      takeField method readValue f.type f.id s f.value = .ok s' [] → s'.value = s.value := by
    intro f s s' other taken
    have kept := value_of_takeField taken
    rwa [if_neg other] at kept
  rcases takes.exists_last keeps found with none | ⟨before, f, after, s, s', last, taken, held⟩
  · cases none
  refine ⟨before, f, after, last, ?_⟩
  have set := value_of_takeField taken
  rw [if_pos last.kind] at set
  obtain ⟨value', read, same⟩ := set
  cases same.symm.trans held
  exact read

/-- A value that is read is the one of the last field with the id 0, which is read whole. -/
theorem exists_value_of_read (accounts : ∀ t, Accounts (readValue t)) {value : α}
    (given : read method sequence readValue bytes = .ok (.value (some value)) rest) :
    ∃ r result before f after, r.bytes = bytes ∧ r.rest = rest ∧
      GivesResult method sequence readValue r result ∧ .value (some value) = result.answer ∧
      IsLast (·.id = 0) r.fields before f after ∧ readValue f.type f.value = .ok value [] := by
  obtain ⟨r, result, whole, left, gives, answer⟩ := (read_eq_ok_iff_raw accounts).1 given
  have found := (answer_eq_value_iff.1 answer).2
  obtain ⟨before, f, after, last, read⟩ := exists_value_of_takesRaw gives.fields found
  exact ⟨r, result, before, f, after, whole, left, gives, answer, last, read⟩

/-! ## Which declared types count -/

/-- **An exception that is read comes from the last field of one, whatever type is declared for
it.** -/
theorem exists_isException_of_read (accounts : ∀ t, Accounts (readValue t)) {e : RemoteException}
    (given : read method sequence readValue bytes = .ok (.exception e) rest) :
    ∃ r result before f after, r.bytes = bytes ∧ GivesResult method sequence readValue r result ∧
      IsLast (HoldsException method) r.fields before f after ∧ IsException method f e ∧
      ∀ t ≠ .stop, read method sequence readValue
        (r.withFields (before ++ f.declare t :: after)).bytes = .ok (.exception e) rest := by
  obtain ⟨r, result, rfl, rfl, gives, answer⟩ := (read_eq_ok_iff_raw accounts).1 given
  have found := answer_eq_exception_iff.1 answer
  obtain ⟨before, f, after, last, holds⟩ := exists_isException_of_takesRaw gives.fields found
  refine ⟨r, result, before, f, after, rfl, gives, last, holds, fun t goesOn => ?_⟩
  have same : ∀ result, takeField method readValue t f.id result f.value =
      takeField method readValue f.type f.id result f.value := by
    intro result
    rw [takeField_of_declared holds.declared, takeField_of_declared holds.declared]
  refine (read_eq_ok_iff_raw accounts).2 ⟨_, result, rfl, rfl, ?_, answer⟩
  exact gives.exchange last.split goesOn same

/-- **Columns that are read come from the last field with the id 0, which is declared a list,
whatever type is declared for its elements.** -/
theorem exists_isColumns_of_read {columns : List Column}
    (given : read method sequence readSchemaValue bytes = .ok (.value (some columns)) rest) :
    ∃ r result before f after, r.bytes = bytes ∧
      GivesResult method sequence readSchemaValue r result ∧
      IsLast (·.id = 0) r.fields before f after ∧ IsColumns f columns ∧
      ∀ t, read method sequence readSchemaValue
        (r.withFields (before ++ f.declareElements t :: after)).bytes =
          .ok (.value (some columns)) rest := by
  obtain ⟨r, result, before, f, after, rfl, rfl, gives, answer, last, read⟩ :=
    exists_value_of_read accounts_readSchemaValue given
  have holds := isColumns_of_readSchemaValue read
  refine ⟨r, result, before, f, after, rfl, gives, last, holds, fun t => ?_⟩
  obtain ⟨element, size, structs, value, -, -⟩ := holds.value
  have elements : readColumns (f.declareElements t).value = readColumns f.value := by
    rw [RawField.declareElements, value, List.tail_cons, readColumns_cons, readColumns_cons]
  have same : ∀ result,
      takeField method readSchemaValue f.type f.id result (f.declareElements t).value =
        takeField method readSchemaValue f.type f.id result f.value := by
    intro result
    rw [holds.type, last.kind]
    simp only [takeField, readSchemaValue, if_true, bind, EStateM.bind, elements]
  refine (read_eq_ok_iff_raw accounts_readSchemaValue).2 ⟨_, result, rfl, rfl, ?_, answer⟩
  have goesOn : f.type ≠ .stop := by
    rw [holds.type]
    decide
  exact gives.exchange last.split goesOn same

/-- **Which declared types decoding goes by.**

A declared exception comes from the last field that holds one, and its message from a field that is
declared a string; but the exception itself is decoded whatever type is declared for it.  A schema
comes from the last field with the id 0, which is declared a list, and the parts of its columns from
fields that are declared strings; but the columns are decoded whatever type is declared for the
elements of the list. -/
theorem decode_declared_types (method : Method) (sequence : Int32) (bytes : Bytes) :
    (∀ e, decodeVoid method sequence bytes = .ok (.exception e) →
      ∃ r result before f after, r.bytes = bytes ∧ GivesResult method sequence skip r result ∧
        IsLast (HoldsException method) r.fields before f after ∧ IsException method f e ∧
        ∀ t ≠ .stop, decodeVoid method sequence
          (r.withFields (before ++ f.declare t :: after)).bytes = .ok (.exception e)) ∧
    (∀ e, decodeSchema sequence bytes = .ok (.exception e) →
      ∃ r result before f after, r.bytes = bytes ∧
        GivesResult .getSchema sequence readSchemaValue r result ∧
        IsLast (HoldsException .getSchema) r.fields before f after ∧
        IsException .getSchema f e ∧
        ∀ t ≠ .stop, decodeSchema sequence
          (r.withFields (before ++ f.declare t :: after)).bytes = .ok (.exception e)) ∧
    ∀ schema, decodeSchema sequence bytes = .ok (.value schema) →
      ∃ r result before f after, r.bytes = bytes ∧
        GivesResult .getSchema sequence readSchemaValue r result ∧
        IsLast (·.id = 0) r.fields before f after ∧ IsColumns f schema.columns ∧
        ∀ t, decodeSchema sequence
          (r.withFields (before ++ f.declareElements t :: after)).bytes = .ok (.value schema) := by
  refine ⟨fun e decoded => ?_, fun e decoded => ?_, fun schema decoded => ?_⟩
  · obtain ⟨rest, given⟩ := decodeVoid_eq_exception_iff.1 decoded
    obtain ⟨r, result, before, f, after, whole, gives, last, holds, exchanged⟩ :=
      exists_isException_of_read accounts_skip given
    refine ⟨r, result, before, f, after, whole, gives, last, holds, fun t goesOn => ?_⟩
    exact decodeVoid_eq_exception_iff.2 ⟨rest, exchanged t goesOn⟩
  · obtain ⟨rest, given⟩ := decodeSchema_eq_exception_iff.1 decoded
    obtain ⟨r, result, before, f, after, whole, gives, last, holds, exchanged⟩ :=
      exists_isException_of_read accounts_readSchemaValue given
    refine ⟨r, result, before, f, after, whole, gives, last, holds, fun t goesOn => ?_⟩
    exact decodeSchema_eq_exception_iff.2 ⟨rest, exchanged t goesOn⟩
  · obtain ⟨rest, given⟩ := decodeSchema_eq_value_iff.1 decoded
    obtain ⟨r, result, before, f, after, whole, gives, last, holds, exchanged⟩ :=
      exists_isColumns_of_read given
    refine ⟨r, result, before, f, after, whole, gives, last, holds, fun t => ?_⟩
    exact decodeSchema_eq_value_iff.2 ⟨rest, exchanged t⟩

/-- A byte that is declared a truth value is decoded as an exception without a message, and as a
column without a name. -/
theorem decode_of_truth_values :
    decodeVoid .createDatabase 1
        (Writer.messageHead .reply "create_database" 1 ++ RawField.struct [⟨.bool, 1, [0]⟩]) =
      .ok (.exception ⟨"AlreadyExistsException", ""⟩) ∧
    decodeSchema 1
        (Writer.messageHead .reply "get_schema" 1 ++
          RawField.struct [⟨.list, 0, WireType.bool.code :: (Writer.i32 1 ++ [0])⟩]) =
      .ok (.value ⟨[⟨"", "", ""⟩]⟩) := by
  constructor <;> decide +kernel

end Reply

end MetastoreProbe
