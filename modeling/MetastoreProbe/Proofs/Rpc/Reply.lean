import MetastoreProbe.Proofs.Wire.RoundTrip
import MetastoreProbe.Rpc.Reply

/-!
# What a reply says

A reply is a list of result fields, in whatever order and as often as the server likes.
`Reply.WellTyped` says which fields a method's reply may have, and `Reply.exceptions`,
`Reply.values` and `Reply.columnOf` say what they mean, by looking at the fields and not at their
bytes.  `Reply.decode_message` is the law: decoding the bytes of any well-typed reply gives the last
declared exception if there is one, and else the last value.
-/

namespace MetastoreProbe

/-- The ids of the exceptions that a method declares are those from 1 to their number. -/
theorem Method.exception?_isSome_iff {method : Method} {id : Int16} :
    (method.exception? id).isSome ↔ 1 ≤ id.toInt ∧ id.toInt ≤ method.exceptions.length := by
  unfold exception?
  by_cases positive : 1 ≤ id.toInt
  · rw [if_pos positive, isSome_getElem?]
    omega
  · rw [if_neg positive]
    simp [positive]

/-- The length of a method's name can be told in a message. -/
theorem Method.name_short (method : Method) :
    (Utf8.encode method.name).length < WireValue.sizeLimit := by
  cases method <;> decide

/-! ## Parts of values -/

namespace WireValue

/-- The text that a value is. -/
def text? : WireValue → Option String
  | string s => some s
  | _ => none

theorem exists_of_type_string {v : WireValue} (h : v.type = .string) : ∃ s, v = string s := by
  cases v with
  | string s => exact ⟨s, rfl⟩
  | _ => cases h

theorem text?_eq_none {v : WireValue} (h : v.type ≠ .string) : v.text? = none := by
  cases v with
  | string s => exact absurd rfl h
  | _ => rfl

/-- The fields of a struct. -/
def fields : WireValue → List (Int16 × WireValue)
  | struct fields => fields
  | _ => []

/-- The elements of a list. -/
def elements : WireValue → List WireValue
  | list _ elements => elements
  | _ => []

/-- A value can be skipped. -/
def CanSkip (v : WireValue) : Prop := v.Fits Reader.maxSkipDepth

/-- The value is a struct, of any fields that can be skipped. -/
def IsRecord (v : WireValue) : Prop :=
  ∃ fields, v = struct fields ∧ ∀ f ∈ fields, f.2.CanSkip

/-- The value is a list of such structs. -/
def IsRecordList (v : WireValue) : Prop :=
  ∃ elements, v = list .struct elements ∧ elements.length < sizeLimit ∧
    ∀ e ∈ elements, e.IsRecord

end WireValue

namespace Reply

open Reader

variable {α β : Type}

/-! ## Meaning -/

/-- The text that a field holds, if it has the given id. -/
def textIn (id : Int16) (f : Int16 × WireValue) : Option String :=
  if f.1 = id then f.2.text? else none

/-- The last text among the fields with the given id; empty without one. -/
def lastText (id : Int16) (fields : List (Int16 × WireValue)) : String :=
  (fields.filterMap (textIn id)).getLast?.getD ""

/-- The column that a struct describes. -/
def columnOf (v : WireValue) : Column :=
  ⟨lastText 1 v.fields, lastText 2 v.fields, lastText 3 v.fields⟩

/-- The columns that a list of structs describes. -/
def columnsOf (v : WireValue) : List Column :=
  v.elements.map columnOf

/-- The exception that a field holds, if its id is one of an exception. -/
def exceptionIn (method : Method) (f : Int16 × WireValue) : Option RemoteException :=
  (method.exception? f.1).map fun kind => ⟨kind, lastText 1 f.2.fields⟩

/-- The value that a field holds, if its id is the one of the value. -/
def valueIn (valueOf : WireValue → α) (f : Int16 × WireValue) : Option α :=
  if f.1 = 0 then some (valueOf f.2) else none

/-- The last exception among the fields of a result. -/
def lastException (method : Method) (fields : List (Int16 × WireValue)) :
    Option RemoteException :=
  (fields.filterMap (exceptionIn method)).getLast?

/-- The last value among the fields of a result. -/
def lastValue (valueOf : WireValue → α) (fields : List (Int16 × WireValue)) : Option α :=
  (fields.filterMap (valueIn valueOf)).getLast?

/-- A field that the result of a method may have: a value, a struct for a declared exception, or
anything that can be skipped. -/
structure WellTyped (method : Method) (IsValue : WireValue → Prop) (f : Int16 × WireValue) :
    Prop where
  value : f.1 = 0 → IsValue f.2
  exception : 1 ≤ f.1.toInt ∧ f.1.toInt ≤ method.exceptions.length → f.2.IsRecord
  other : f.1.toInt < 0 ∨ method.exceptions.length < f.1.toInt → f.2.CanSkip

/-- The bytes of a reply with the given result fields. -/
def message (method : Method) (sequence : Int32) (fields : List (Int16 × WireValue)) : Bytes :=
  Writer.messageHead .reply method.name sequence ++ (WireValue.struct fields).encode

/-! ## The last one counts -/

/-- What is kept when each element may replace it is what the last one gave. -/
theorem foldl_getD_eq_getLast? (g : α → Option β) (xs : List α) (kept : β) :
    xs.foldl (fun b x => (g x).getD b) kept = (xs.filterMap g).getLast?.getD kept := by
  induction xs generalizing kept with
  | nil => rfl
  | cons x xs ih =>
    rw [List.foldl_cons, ih]
    cases h : g x with
    | none => rw [List.filterMap_cons_none h, Option.getD_none]
    | some b =>
      rw [List.filterMap_cons_some h, List.getLast?_cons, Option.getD_some, Option.getD_some]

theorem foldl_or_eq_getLast? (g : α → Option β) (xs : List α) (kept : Option β) :
    xs.foldl (fun b x => (g x).or b) kept = (xs.filterMap g).getLast?.or kept := by
  have replaced : (fun b x => (g x).or b) = fun b x => ((g x).map some).getD b := by
    funext b x
    cases g x <;> rfl
  have found : xs.filterMap (fun x => (g x).map some) = (xs.filterMap g).map some := by
    rw [List.map_filterMap]
  rw [replaced, foldl_getD_eq_getLast?, found, List.getLast?_map]
  cases (xs.filterMap g).getLast? <;> rfl

/-! ## Exceptions and columns -/

theorem skip_encode {v : WireValue} (h : v.CanSkip) (rest : Bytes) :
    skip v.type (v.encode ++ rest) = .ok () rest :=
  skipWithin_encode h rest

/-- A skipped value changes nothing in what the fields before it gave. -/
theorem skip_and_keep {v : WireValue} (h : v.CanSkip) (kept : α) (rest : Bytes) :
    (do skip v.type; return kept : Reader α) (v.encode ++ rest) = .ok kept rest := by
  rw [Scan.bind_apply_of_ok (skip_encode h rest)]
  rfl

/-- A text that can be skipped can be read. -/
theorem string_encode {s : String} (h : (WireValue.string s).CanSkip) (rest : Bytes) :
    Reader.string ((WireValue.string s).encode ++ rest) = .ok s rest := by
  cases h with
  | string _ short =>
    rw [WireValue.encode]
    exact string_append short rest

/-- A field holds no text under an id if it has another id or another type. -/
theorem textIn_eq_none {id : Int16} {f : Int16 × WireValue}
    (h : ¬ (f.1 = id ∧ f.2.type = .string)) : textIn id f = none := by
  by_cases same : f.1 = id
  · rw [textIn, if_pos same]
    exact WireValue.text?_eq_none fun type => h ⟨same, type⟩
  · exact if_neg same

/-- **The message of an exception is its last text under the id 1.** -/
theorem readException_encode (kind : String) {fields : List (Int16 × WireValue)}
    (canSkip : ∀ f ∈ fields, f.2.CanSkip) (rest : Bytes) :
    readException kind ((WireValue.struct fields).encode ++ rest) =
      .ok ⟨kind, lastText 1 fields⟩ rest := by
  unfold readException
  refine (Scan.bind_apply_of_ok (fields_encode
    (fun message f => (textIn 1 f).getD message) ?_ "" rest)).trans ?_
  · intro f mem message rest
    by_cases text : f.1 = 1 ∧ f.2.type = .string
    · obtain ⟨s, value⟩ := WireValue.exists_of_type_string text.2
      have skippable := canSkip f mem
      rw [value] at skippable
      rw [if_pos text, textIn, if_pos text.1, value]
      exact string_encode skippable rest
    · rw [if_neg text, textIn_eq_none text]
      exact skip_and_keep (canSkip f mem) message rest
  · rw [foldl_getD_eq_getLast?]
    rfl

/-- A column after one more field of it. -/
def columnAfter (column : Column) (f : Int16 × WireValue) : Column :=
  { name := (textIn 1 f).getD column.name
    type := (textIn 2 f).getD column.type
    comment := (textIn 3 f).getD column.comment }

theorem foldl_columnAfter (fields : List (Int16 × WireValue)) :
    fields.foldl columnAfter ⟨"", "", ""⟩ = columnOf (.struct fields) := by
  have parts (column : Column) :
      fields.foldl columnAfter column =
        { name := fields.foldl (fun text f => (textIn 1 f).getD text) column.name
          type := fields.foldl (fun text f => (textIn 2 f).getD text) column.type
          comment := fields.foldl (fun text f => (textIn 3 f).getD text) column.comment } := by
    induction fields generalizing column with
    | nil => rfl
    | cons f fields ih => exact ih (columnAfter column f)
  rw [parts, foldl_getD_eq_getLast?, foldl_getD_eq_getLast?, foldl_getD_eq_getLast?]
  rfl

/-- **Each part of a column is its last text under the id of the part.** -/
theorem readColumn_encode {v : WireValue} (h : v.IsRecord) (rest : Bytes) :
    readColumn (v.encode ++ rest) = .ok (columnOf v) rest := by
  obtain ⟨fields, rfl, canSkip⟩ := h
  rw [← foldl_columnAfter]
  refine fields_encode columnAfter ?_ _ rest
  rintro ⟨id, v⟩ mem column rest
  by_cases one : id = 1 ∧ v.type = .string
  · obtain ⟨rfl, text⟩ := one
    obtain ⟨s, rfl⟩ := WireValue.exists_of_type_string text
    exact Scan.bind_apply_of_ok (string_encode (canSkip _ mem) rest)
  by_cases two : id = 2 ∧ v.type = .string
  · obtain ⟨rfl, text⟩ := two
    obtain ⟨s, rfl⟩ := WireValue.exists_of_type_string text
    exact Scan.bind_apply_of_ok (string_encode (canSkip _ mem) rest)
  by_cases three : id = 3 ∧ v.type = .string
  · obtain ⟨rfl, text⟩ := three
    obtain ⟨s, rfl⟩ := WireValue.exists_of_type_string text
    exact Scan.bind_apply_of_ok (string_encode (canSkip _ mem) rest)
  · have noName : textIn 1 (id, v) = none := textIn_eq_none one
    have noType : textIn 2 (id, v) = none := textIn_eq_none two
    have noComment : textIn 3 (id, v) = none := textIn_eq_none three
    have kept : columnAfter column (id, v) = column := by
      rw [columnAfter, noName, noType, noComment]
      rfl
    -- What is left is the step's last case: each of the others asks for a text under its id.
    rw [kept]
    refine (congrFun ?_ _).trans (skip_and_keep (canSkip _ mem) column rest)
    split
    next text number => exact absurd ⟨Int16.toInt_inj.1 number, text⟩ one
    next text number => exact absurd ⟨Int16.toInt_inj.1 number, text⟩ two
    next text number => exact absurd ⟨Int16.toInt_inj.1 number, text⟩ three
    next => rfl

/-- The columns of a schema are those of its elements, in order. -/
theorem readSchemaValue_encode {v : WireValue} (h : v.IsRecordList) (rest : Bytes) :
    readSchemaValue v.type (v.encode ++ rest) = .ok (columnsOf v) rest := by
  obtain ⟨elements, rfl, short, records⟩ := h
  have isList : readSchemaValue (WireValue.list .struct elements).type = readColumns := if_pos rfl
  rw [isList, readColumns, WireValue.encode_list, Writer.list, List.length_map,
    ← List.flatMap_def, List.cons_append, List.append_assoc,
    Scan.bind_apply_of_ok (type_cons .struct _), Scan.bind_apply_of_ok (count_append short _)]
  exact Scan.collect_flatMap (fun e mem => readColumn_encode (records e mem)) rest

/-! ## Results -/

/-- A result after one more field of it. -/
def resultAfter (method : Method) (valueOf : WireValue → α) (result : Result α)
    (f : Int16 × WireValue) : Result α :=
  { value := (valueIn valueOf f).or result.value
    exception := (exceptionIn method f).or result.exception }

theorem foldl_resultAfter (method : Method) (valueOf : WireValue → α)
    (fields : List (Int16 × WireValue)) :
    fields.foldl (resultAfter method valueOf) {} =
      { value := lastValue valueOf fields, exception := lastException method fields } := by
  have parts (result : Result α) :
      fields.foldl (resultAfter method valueOf) result =
        { value := fields.foldl (fun kept f => (valueIn valueOf f).or kept) result.value
          exception :=
            fields.foldl (fun kept f => (exceptionIn method f).or kept) result.exception } := by
    induction fields generalizing result with
    | nil => rfl
    | cons f fields ih => exact ih (resultAfter method valueOf result f)
  rw [parts, foldl_or_eq_getLast?, foldl_or_eq_getLast?, Option.or_none, Option.or_none]
  rfl

section Results

variable {method : Method} {IsValue : WireValue → Prop} {readValue : WireType → Reader α}
  {valueOf : WireValue → α} {fields : List (Int16 × WireValue)}

/-- **A result is its last value and its last declared exception**, where values are read as
`valueOf` says. -/
theorem readResult_encode
    (reads : ∀ v, IsValue v → ∀ rest, readValue v.type (v.encode ++ rest) = .ok (valueOf v) rest)
    (wellTyped : ∀ f ∈ fields, WellTyped method IsValue f) (rest : Bytes) :
    readResult method readValue ((WireValue.struct fields).encode ++ rest) =
      .ok { value := lastValue valueOf fields, exception := lastException method fields }
        rest := by
  rw [← foldl_resultAfter]
  refine fields_encode (resultAfter method valueOf) ?_ _ rest
  intro f mem result rest
  have typed := wellTyped f mem
  by_cases isValue : f.1 = 0
  · have noException : exceptionIn method f = none := by
      rw [exceptionIn, isValue]
      rfl
    have value : valueIn valueOf f = some (valueOf f.2) := if_pos isValue
    rw [if_pos isValue, resultAfter, value, noException]
    exact Scan.bind_apply_of_ok (reads f.2 (typed.value isValue) rest)
  · have noValue : valueIn valueOf f = none := if_neg isValue
    rw [if_neg isValue, resultAfter, noValue, exceptionIn]
    cases declared : method.exception? f.1 with
    | none =>
      have undeclared : ¬ (1 ≤ f.1.toInt ∧ f.1.toInt ≤ method.exceptions.length) := by
        rw [← Method.exception?_isSome_iff, declared]
        exact Bool.false_ne_true
      have notZero : f.1.toInt ≠ 0 := fun zero => isValue (Int16.toInt_inj.1 zero)
      exact skip_and_keep (typed.other (by omega)) result rest
    | some kind =>
      have within := Method.exception?_isSome_iff.1 (Option.isSome_of_eq_some declared)
      obtain ⟨parts, value, canSkip⟩ := typed.exception within
      rw [value]
      exact Scan.bind_apply_of_ok (readException_encode kind canSkip rest)

/-- A reply that belongs to its request is read as its result says. -/
theorem read_message
    (reads : ∀ v, IsValue v → ∀ rest, readValue v.type (v.encode ++ rest) = .ok (valueOf v) rest)
    (wellTyped : ∀ f ∈ fields, WellTyped method IsValue f) (sequence : Int32) :
    read method sequence readValue (message method sequence fields) =
      .ok (match lastException method fields with
        | some e => .exception e
        | none => .value (lastValue valueOf fields)) [] := by
  have head :=
    messageHead_append .reply method.name_short sequence ((WireValue.struct fields).encode)
  have result := readResult_encode reads wellTyped []
  rw [List.append_nil] at result
  rw [read, message, Scan.bind_apply_of_ok head]
  simp only [ne_eq, not_true_eq_false, if_false]
  rw [Scan.bind_apply_of_ok result]
  cases lastException method fields <;> rfl

end Results

/-- **A well-typed reply means what its fields say.**  Its last declared exception counts, if it has
one.  Without one, the reply of a method that returns nothing is a success, and the reply with a
schema has the columns of its last value, or is at fault if it has no value. -/
theorem decode_message (sequence : Int32) (fields : List (Int16 × WireValue)) :
    (∀ method, (∀ f ∈ fields, WellTyped method WireValue.CanSkip f) →
        decodeVoid method sequence (message method sequence fields) =
          .ok (match lastException method fields with
            | some e => .exception e
            | none => .value ())) ∧
      ((∀ f ∈ fields, WellTyped .getSchema WireValue.IsRecordList f) →
        decodeSchema sequence (message .getSchema sequence fields) =
          match lastException .getSchema fields, lastValue columnsOf fields with
          | some e, _ => .ok (.exception e)
          | none, some columns => .ok (.value ⟨columns⟩)
          | none, none => .error .noSchema) := by
  constructor
  · intro method wellTyped
    have reply := read_message (fun v canSkip => skip_encode canSkip) wellTyped sequence
    rw [decodeVoid, Scan.valueOf, readVoid, Scan.bind_apply_of_ok reply]
    cases lastException method fields <;> rfl
  · intro wellTyped
    have reply := read_message (fun v records => readSchemaValue_encode records) wellTyped sequence
    rw [decodeSchema, Scan.valueOf, readSchema, Scan.bind_apply_of_ok reply]
    cases lastException .getSchema fields with
    | some e => rfl
    | none => cases lastValue columnsOf fields <;> rfl

/-- The id 4 is one of an exception for a method that declares four, and means nothing to a method
that declares three. -/
theorem decode_message_of_fourth_id :
    let fields : List (Int16 × WireValue) :=
      [(0, .list .struct [.struct [(1, .string "id")]]), (4, .struct [])]
    decodeVoid .createTable 7 (message .createTable 7 fields) =
        .ok (.exception ⟨"NoSuchObjectException", ""⟩) ∧
      decodeSchema 7 (message .getSchema 7 fields) = .ok (.value ⟨[⟨"id", "", ""⟩]⟩) := by
  intro fields
  have text (depth : Nat) : ∀ f ∈ [((1 : Int16), WireValue.string "id")], f.2.Fits (depth + 1) :=
    List.forall_mem_singleton.2 (.string depth (by decide))
  have columns : (WireValue.list .struct [.struct [(1, .string "id")]]).Fits (62 + 2) :=
    .list (by decide) (List.forall_mem_singleton.2 rfl)
      (List.forall_mem_singleton.2 (.struct (text 61)))
  have records : (WireValue.list .struct [.struct [(1, .string "id")]]).IsRecordList :=
    ⟨_, rfl, by decide, List.forall_mem_singleton.2 ⟨_, rfl, text 63⟩⟩
  have empty : (WireValue.struct []).Fits (63 + 1) := .struct (List.forall_mem_nil _)
  have forTable : ∀ f ∈ fields, WellTyped .createTable WireValue.CanSkip f := by
    refine List.forall_mem_cons.2 ⟨?_, List.forall_mem_singleton.2 ?_⟩
    · exact ⟨fun _ => columns, fun declared => absurd declared (by decide),
        fun other => absurd other (by decide)⟩
    · exact ⟨fun value => absurd value (by decide),
        fun _ => ⟨[], rfl, List.forall_mem_nil _⟩, fun other => absurd other (by decide)⟩
  have forSchema : ∀ f ∈ fields, WellTyped .getSchema WireValue.IsRecordList f := by
    refine List.forall_mem_cons.2 ⟨?_, List.forall_mem_singleton.2 ?_⟩
    · exact ⟨fun _ => records, fun declared => absurd declared (by decide),
        fun other => absurd other (by decide)⟩
    · exact ⟨fun value => absurd value (by decide),
        fun declared => absurd declared (by decide), fun _ => empty⟩
  exact ⟨(decode_message 7 fields).1 .createTable forTable, (decode_message 7 fields).2 forSchema⟩

end Reply

end MetastoreProbe
