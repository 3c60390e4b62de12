import MetastoreProbe.Client.Sasl
import MetastoreProbe.Proofs.Rpc.Correlation
import MetastoreProbe.Proofs.Wire.Fields

/-!
# Replies that provide an object

A call that creates an object succeeds if the object is there afterwards, whoever made it.  Which
bytes say so is a matter of the ids alone: `Reply.HasFields` lists the ids of a result, in the order
in which they come, and `Reply.Provides` looks at the last one that belongs to a declared exception.
There must be none, or it must be the id 1.

`SaslClient.createResult_isOk_iff` says that these are the replies that count as a success.  It is
an equivalence over all bytes, so that no other reply passes, however it is put together.
-/

namespace MetastoreProbe

/-! ## Ids of exceptions -/

namespace Method

/-- The id is one of an exception that the method declares. -/
def Declares (method : Method) (id : Int16) : Prop :=
  1 ≤ id.toInt ∧ id.toInt ≤ method.exceptions.length

instance (method : Method) (id : Int16) : Decidable (method.Declares id) :=
  inferInstanceAs (Decidable (_ ∧ _))

theorem exception?_eq_none {method : Method} {id : Int16} (h : ¬ method.Declares id) :
    method.exception? id = none := by
  have undeclared : ¬ (method.exception? id).isSome := fun found =>
    h (exception?_isSome_iff.1 found)
  simpa using undeclared

/-- Of the methods that create something, the exception with the id 1 says that the object exists
already, and no other exception does. -/
theorem isAlreadyExistsKind_iff {method : Method} (creates : method ≠ .getSchema) {id : Int16}
    {kind : String} (found : method.exception? id = some kind) :
    MetastoreError.isAlreadyExistsKind kind = true ↔ id = 1 := by
  obtain ⟨positive, -⟩ := exception?_isSome_iff.1 (Option.isSome_of_eq_some found)
  have first : id = 1 ↔ id.toInt.toNat - 1 = 0 := by
    rw [← Int16.toInt_inj]
    have one : (1 : Int16).toInt = 1 := rfl
    omega
  rw [exception?, if_pos positive] at found
  rw [first]
  generalize id.toInt.toNat - 1 = n at found ⊢
  cases method with
  | getSchema => exact absurd rfl creates
  | createDatabase | createTable =>
    match n with
    | 0 | 1 | 2 | 3 | n + 4 => cases found <;> decide

end Method

namespace Reply

open Reader

variable {method : Method} {sequence : Int32}

/-! ## The ids of a result -/

/-- The value of the field with the given id can be taken: as a declared exception, or else as
something that can be skipped. -/
def TakesValue (method : Method) (t : WireType) (id : Int16) (body rest : Bytes) : Prop :=
  match method.exception? id with
  | some kind => ∃ e, readException kind body = .ok e rest
  | none => skip t body = .ok () rest

/-- The bytes start with a struct whose fields have the given ids, each with a value that can be
taken.  Behind its stop tag, `rest` follows. -/
inductive HasFields (method : Method) : Bytes → List Int16 → Bytes → Prop
  | stop {input rest : Bytes} (head : fieldHead input = .ok .stop rest) :
    HasFields method input [] rest
  | field {t : WireType} {id : Int16} {ids : List Int16} {input body middle rest : Bytes}
    (head : fieldHead input = .ok (.field t id) body)
    (value : TakesValue method t id body middle) (more : HasFields method middle ids rest) :
    HasFields method input (id :: ids) rest

/-- The last of some ids that belongs to a declared exception. -/
def lastDeclared (method : Method) (ids : List Int16) : Option Int16 :=
  (ids.filter fun id => method.Declares id).getLast?

/-- **The reply says that the object is there.**  It belongs to the request, and its last declared
exception, if it has one, is that the object exists already. -/
def Provides (method : Method) (sequence : Int32) (bytes : Bytes) : Prop :=
  ∃ body ids rest, messageHead bytes = .ok ⟨.reply, method.name, sequence⟩ body ∧
    HasFields method body ids rest ∧
      (lastDeclared method ids = none ∨ lastDeclared method ids = some 1)

/-! ## Taking the fields -/

theorem kind_of_readException {kind : String} {input rest : Bytes} {e : RemoteException}
    (read : readException kind input = .ok e rest) : e.kind = kind := by
  obtain ⟨message, middle, -, ended⟩ := Scan.bind_eq_ok_iff.1 read
  cases ended
  rfl

/-- The exception that a result holds is the one with the given id. -/
def Holds (method : Method) (result : Result Unit) (id : Option Int16) : Prop :=
  result.exception.map (·.kind) = id.bind method.exception?

/-- The id that counts once a field with the id `id` was taken. -/
def laterId (method : Method) (kept : Option Int16) (id : Int16) : Option Int16 :=
  (Option.guard (fun id => method.Declares id) id).or kept

theorem foldl_laterId (method : Method) (ids : List Int16) :
    ids.foldl (laterId method) none = lastDeclared method ids := by
  unfold laterId lastDeclared
  rw [foldl_or_eq_getLast?, List.filterMap_eq_filter, Option.or_none]

section Step

variable {t : WireType} {id : Int16} {result result' : Result Unit} {body rest : Bytes}

theorem takeField_of_some {kind : String} (found : method.exception? id = some kind) :
    takeField method skip t id result body = .ok result' rest ↔
      ∃ e, readException kind body = .ok e rest ∧
        result' = { result with exception := some e } := by
  rw [takeField_of_declared found, Scan.bind_eq_ok_iff]
  constructor
  · rintro ⟨e, middle, read, ended⟩
    cases ended
    exact ⟨e, read, rfl⟩
  · rintro ⟨e, read, rfl⟩
    exact ⟨e, rest, read, rfl⟩

theorem takeField_of_none (found : method.exception? id = none) :
    takeField method skip t id result body = .ok result' rest ↔
      skip t body = .ok () rest ∧
        result' = { result with value := if id = 0 then some () else result.value } := by
  have step : takeField method skip t id result =
      (do
        skip t
        return { result with value := if id = 0 then some () else result.value }) := by
    by_cases value : id = 0
    · rw [takeField, if_pos value, if_pos value]
    · rw [takeField, if_neg value, if_neg value, found]
  rw [step, Scan.bind_eq_ok_iff]
  constructor
  · rintro ⟨_, middle, skipped, ended⟩
    cases ended
    exact ⟨skipped, rfl⟩
  · rintro ⟨skipped, rfl⟩
    exact ⟨(), rest, skipped, rfl⟩

theorem exists_takeField_iff :
    (∃ result', takeField method skip t id result body = .ok result' rest) ↔
      TakesValue method t id body rest := by
  unfold TakesValue
  cases found : method.exception? id with
  | none =>
    simp only [takeField_of_none found]
    exact ⟨fun ⟨_, skipped, _⟩ => skipped, fun skipped => ⟨_, skipped, rfl⟩⟩
  | some kind =>
    simp only [takeField_of_some found]
    exact ⟨fun ⟨_, e, read, _⟩ => ⟨e, read⟩, fun ⟨e, read⟩ => ⟨_, e, read, rfl⟩⟩

/-- What a field does to the exception of a result is told by its id. -/
theorem holds_of_takeField (taken : takeField method skip t id result body = .ok result' rest)
    {kept : Option Int16} (holds : Holds method result kept) :
    Holds method result' (laterId method kept id) := by
  unfold Holds laterId
  by_cases declared : method.Declares id
  · have counts : Option.guard (fun id => decide (method.Declares id)) id = some id := by
      simp [Option.guard, declared]
    obtain ⟨kind, found⟩ := Option.isSome_iff_exists.1 (Method.exception?_isSome_iff.2 declared)
    obtain ⟨e, read, rfl⟩ := (takeField_of_some found).1 taken
    rw [counts]
    simp [found, kind_of_readException read]
  · have passes : Option.guard (fun id => decide (method.Declares id)) id = none := by
      simp [Option.guard, declared]
    obtain ⟨-, rfl⟩ := (takeField_of_none (Method.exception?_eq_none declared)).1 taken
    rw [passes]
    exact holds

end Step

/-! A result is taken field by field just when its fields are there, and the exception that is left
is the one with the last declared id. -/

theorem exists_hasFields {input rest : Bytes} {result result' : Result Unit}
    (takes : TakesFields (takeField method skip) result input result' rest) {kept : Option Int16}
    (holds : Holds method result kept) :
    ∃ ids, HasFields method input ids rest ∧
      Holds method result' (ids.foldl (laterId method) kept) := by
  induction takes generalizing kept with
  | stop head => exact ⟨[], .stop head, holds⟩
  | field head value more ih =>
    obtain ⟨ids, has, holds'⟩ := ih (holds_of_takeField value holds)
    have takesValue := exists_takeField_iff.1 ⟨_, value⟩
    exact ⟨_ :: ids, .field head takesValue has, holds'⟩

theorem exists_takesFields {input rest : Bytes} {ids : List Int16}
    (has : HasFields method input ids rest) {result : Result Unit} {kept : Option Int16}
    (holds : Holds method result kept) :
    ∃ result', TakesFields (takeField method skip) result input result' rest ∧
      Holds method result' (ids.foldl (laterId method) kept) := by
  induction has generalizing result kept with
  | stop head => exact ⟨result, .stop head, holds⟩
  | field head value more ih =>
    obtain ⟨next, taken⟩ := exists_takeField_iff.2 value
    obtain ⟨result', takes, holds'⟩ := ih (holds_of_takeField taken holds)
    exact ⟨result', .field head taken takes, holds'⟩

theorem readResult_eq_ok_iff {input rest : Bytes} {result : Result Unit} :
    readResult method skip input = .ok result rest ↔
      TakesFields (takeField method skip) {} input result rest :=
  fields_eq_ok_iff (accounts_takeField method accounts_skip)

/-- No exception is there at first. -/
theorem holds_empty (method : Method) : Holds method {} none := rfl

end Reply

/-! ## Success -/

namespace SaslClient

open Reply

variable {method : Method} {sequence : Int32} {bytes : Bytes}

/-- A result is a success if the last declared id is that of an object that exists, or if there is
none. -/
theorem createOutcome_isOk_iff (creates : method ≠ .getSchema) {result : Result Unit}
    {last : Option Int16} (holds : Holds method result last)
    (declared : ∀ id ∈ last, method.Declares id) :
    (∃ outcome, createOutcome method
        ((result.exception.map Reply.exception).getD (.value ())) = .ok outcome) ↔
      last = none ∨ last = some 1 := by
  unfold Holds at holds
  cases last with
  | none =>
    have fine : result.exception = none := by simpa using holds
    simp [fine, createOutcome]
  | some id =>
    obtain ⟨kind, found⟩ :=
      Option.isSome_iff_exists.1 (Method.exception?_isSome_iff.2 (declared id rfl))
    rw [Option.bind_some, found] at holds
    obtain ⟨e, thrown, rfl⟩ := Option.map_eq_some_iff.1 holds
    have first := Method.isAlreadyExistsKind_iff creates found
    simp only [thrown, Option.map_some, Option.getD_some, createOutcome,
      RemoteException.isAlreadyExists, reduceCtorEq, false_or, Option.some.injEq]
    rw [← first]
    by_cases provided : MetastoreError.isAlreadyExistsKind e.kind <;> simp [provided]

/-- **The bytes of a reply count as a success just when they provide the object.** -/
theorem createResult_isOk_iff (creates : method ≠ .getSchema) :
    (∃ outcome, createResult method sequence bytes = .ok outcome) ↔
      Provides method sequence bytes := by
  have declared (ids : List Int16) : ∀ id ∈ lastDeclared method ids, method.Declares id := by
    intro id last
    have kept := List.mem_of_getLast? last
    simpa using (List.mem_filter.1 kept).2
  constructor
  · rintro ⟨outcome, succeeds⟩
    unfold createResult at succeeds
    cases decoded : decodeVoid method sequence bytes with
    | error fault => simp [decoded] at succeeds
    | ok reply =>
      simp only [decoded] at succeeds
      obtain ⟨body, result, rest, opened, read, rfl⟩ := decodeVoid_eq_ok_iff.1 decoded
      have takes := readResult_eq_ok_iff.1 read
      obtain ⟨ids, has, holds⟩ := exists_hasFields takes (holds_empty method)
      rw [foldl_laterId] at holds
      have last := (createOutcome_isOk_iff creates holds (declared ids)).1 ⟨outcome, succeeds⟩
      exact ⟨body, ids, rest, opened, has, last⟩
  · rintro ⟨body, ids, rest, opened, has, last⟩
    obtain ⟨result, takes, holds⟩ := exists_takesFields has (holds_empty method)
    rw [foldl_laterId] at holds
    obtain ⟨outcome, succeeds⟩ := (createOutcome_isOk_iff creates holds (declared ids)).2 last
    have read := readResult_eq_ok_iff.2 takes
    have decoded := decodeVoid_eq_ok_iff.2 ⟨body, result, rest, opened, read, rfl⟩
    refine ⟨outcome, ?_⟩
    rw [createResult, decoded]
    exact succeeds

/-- A call breaks down just when the decoding of its reply does. -/
theorem createResult_eq_breakdown_iff :
    createResult method sequence bytes = .error .breakdown ↔
      BreaksDown (decodeVoid method sequence bytes) := by
  unfold createResult
  cases decodeVoid method sequence bytes with
  | error fault => simp [BreaksDown]
  | ok reply =>
    cases reply with
    | value a => simp [createOutcome, BreaksDown]
    | exception e =>
      by_cases provided : e.isAlreadyExists <;>
        simp [createOutcome, BreaksDown, provided, remoteError]

end SaslClient

end MetastoreProbe
