import MetastoreProbe.Proofs.Rpc.Faults

/-!
# Replies and their requests

A reply belongs to a request if its head carries the name of the method and the number of the
request.  `Reply.read` looks at both before it reads a result, but not before it reads what a
server says that could not serve the call: such a message is taken as the answer to any call.

`Reply.answer_correlated` says how far the correlation goes.  A value or a declared exception is
read only from a reply that belongs to the request, and an answer of any kind belongs to the request
unless it is `Stray`.
-/

namespace MetastoreProbe

namespace Reply

open Reader

variable {α β : Type} {method : Method} {sequence : Int32} {bytes rest : Bytes}

/-! ## Answers and heads -/

/-- What the client reports as the server's answer to the call: a value, a declared exception, or
that the call could not be served. -/
def IsAnswer : Except DecodeFault α → Prop
  | .ok _ | .error (.application _ _) => True
  | .error _ => False

theorem isAnswer_iff {result : Except DecodeFault α} :
    IsAnswer result ↔
      (∃ a, result = .ok a) ∨ ∃ kind message, result = .error (.application kind message) := by
  cases result with
  | ok a => simp [IsAnswer]
  | error fault => cases fault <;> simp [IsAnswer]

/-- The head of the message carries the name of the method and the number of the request. -/
def Addressed (method : Method) (sequence : Int32) (bytes : Bytes) : Prop :=
  ∃ kind body, messageHead bytes = .ok ⟨kind, method.name, sequence⟩ body

/-- The message says that a call could not be served, and belongs to another request. -/
def Stray (method : Method) (sequence : Int32) (bytes : Bytes) : Prop :=
  ∃ head body failure rest,
    messageHead bytes = .ok head body ∧ head.kind = .exception ∧
      (head.method ≠ method.name ∨ head.sequence ≠ sequence) ∧
      readApplicationFailure body = .ok failure rest

/-! ## What a reply was read from -/

/-- No reader of values finds that the call could not be served. -/
theorem ne_application_of_accounts {p : Reader α} (h : Accounts p) (kind : ApplicationKind)
    (message : String) : p bytes ≠ .error (.application kind message) rest := by
  intro failed
  exact (h bytes).error failed trivial

/-- What a result answers: its exception, or else its value if it has one. -/
def Result.answer (result : Result α) : Reply (Option α) :=
  match result.exception with
  | some e => .exception e
  | none => .value result.value

/-- **A reply is read just when its head belongs to the request** and a result follows. -/
theorem read_eq_ok_iff {readValue : WireType → Reader α} {reply : Reply (Option α)} :
    read method sequence readValue bytes = .ok reply rest ↔
      ∃ body result, messageHead bytes = .ok ⟨.reply, method.name, sequence⟩ body ∧
        readResult method readValue body = .ok result rest ∧ reply = result.answer := by
  constructor
  · intro h
    obtain ⟨⟨kind, name, number⟩, body, opened, h⟩ := Scan.bind_eq_ok_iff.1 h
    cases kind with
    | call | oneWay => cases h
    | exception =>
      obtain ⟨failure, middle, read, thrown⟩ := Scan.bind_eq_ok_iff.1 h
      cases thrown
    | reply =>
      by_cases sameName : name = method.name
      · by_cases sameNumber : number = sequence
        · subst sameName sameNumber
          simp only [ne_eq, not_true_eq_false, if_false] at h
          obtain ⟨result, middle, read, ended⟩ := Scan.bind_eq_ok_iff.1 h
          refine ⟨body, result, opened, ?_⟩
          unfold Result.answer
          cases found : result.exception <;> rw [found] at ended <;> cases ended <;>
            exact ⟨read, rfl⟩
        · simp [sameName, sameNumber] at h
      · simp [sameName] at h
  · rintro ⟨body, result, opened, result_eq, rfl⟩
    rw [read, Scan.bind_apply_of_ok opened]
    simp only [ne_eq, not_true_eq_false, if_false]
    rw [Scan.bind_apply_of_ok result_eq]
    unfold Result.answer
    cases result.exception <;> rfl

/-- A result is read only behind the head of a reply that belongs to the request. -/
theorem exists_head_of_read_ok {readValue : WireType → Reader α} {reply : Reply (Option α)}
    (h : read method sequence readValue bytes = .ok reply rest) :
    ∃ body, messageHead bytes = .ok ⟨.reply, method.name, sequence⟩ body := by
  obtain ⟨body, result, opened, -⟩ := read_eq_ok_iff.1 h
  exact ⟨body, opened⟩

/-- What is decoded from a reply is the exception of its result, or a success. -/
theorem decodeVoid_eq_ok_iff {reply : Reply Unit} :
    decodeVoid method sequence bytes = .ok reply ↔
      ∃ body result rest, messageHead bytes = .ok ⟨.reply, method.name, sequence⟩ body ∧
        readResult method skip body = .ok result rest ∧
        reply = (result.exception.map Reply.exception).getD (.value ()) := by
  rw [decodeVoid, Scan.valueOf_eq_ok_iff]
  constructor
  · rintro ⟨rest, h⟩
    obtain ⟨answer, middle, read, ended⟩ := Scan.bind_eq_ok_iff.1 h
    obtain ⟨body, result, opened, result_eq, rfl⟩ := read_eq_ok_iff.1 read
    refine ⟨body, result, middle, opened, result_eq, ?_⟩
    unfold Result.answer at ended
    cases found : result.exception <;> rw [found] at ended <;> cases ended <;> rfl
  · rintro ⟨body, result, rest, opened, result_eq, rfl⟩
    have read := read_eq_ok_iff.2 ⟨body, result, opened, result_eq, rfl⟩
    refine ⟨rest, (Scan.bind_apply_of_ok read).trans ?_⟩
    unfold Result.answer
    cases result.exception <;> rfl

/-- That the call could not be served is read behind any head that announces it. -/
theorem read_eq_application_iff {readValue : WireType → Reader α} {kind : ApplicationKind}
    {message : String} (h : ∀ t, Accounts (readValue t)) :
    read method sequence readValue bytes = .error (.application kind message) rest ↔
      ∃ head body, messageHead bytes = .ok head body ∧ head.kind = .exception ∧
        readApplicationFailure body = .ok (kind, message) rest := by
  constructor
  · intro failed
    rcases Scan.bind_eq_error_iff.1 failed with failed | ⟨head, body, opened, failed⟩
    · exact absurd failed (ne_application_of_accounts accounts_messageHead kind message)
    · obtain ⟨announced, name, number⟩ := head
      cases announced with
      | call | oneWay => cases failed
      | exception =>
        refine ⟨_, body, opened, rfl, ?_⟩
        rcases Scan.bind_eq_error_iff.1 failed with failed | ⟨failure, middle, read, thrown⟩
        · exact absurd failed
            (ne_application_of_accounts accounts_readApplicationFailure kind message)
        · cases thrown
          exact read
      | reply =>
        by_cases sameName : name = method.name
        · by_cases sameNumber : number = sequence
          · simp only [sameName, sameNumber, ne_eq, not_true_eq_false, if_false] at failed
            rcases Scan.bind_eq_error_iff.1 failed with failed | ⟨result, middle, read, ended⟩
            · exact absurd failed
                (ne_application_of_accounts (accounts_readResult method h) kind message)
            · cases found : result.exception <;> simp [found] at ended
          · simp [sameName, sameNumber] at failed
        · simp [sameName] at failed
  · rintro ⟨⟨announced, name, number⟩, body, opened, rfl, failure⟩
    rw [read, Scan.bind_apply_of_ok opened]
    exact Scan.bind_apply_of_ok failure

/-- What a decoder makes of the reply that was read decides neither whether there is one nor
whether the call was served. -/
structure Finishes (p : Reader (Reply (Option β))) (q : Reader α) : Prop where
  ok : ∀ {bytes rest a}, q bytes = .ok a rest → ∃ reply middle, p bytes = .ok reply middle
  application : ∀ {bytes rest kind message},
    q bytes = .error (.application kind message) rest ↔
      p bytes = .error (.application kind message) rest

theorem finishes_bind {p : Reader (Reply (Option β))} {f : Reply (Option β) → Reader α}
    (h : ∀ reply input kind message rest,
      f reply input ≠ .error (.application kind message) rest) : Finishes p (p >>= f) where
  ok decoded := by
    obtain ⟨reply, middle, read, finished⟩ := Scan.bind_eq_ok_iff.1 decoded
    exact ⟨reply, middle, read⟩
  application := by
    refine ⟨fun failed => ?_, Scan.bind_apply_of_error⟩
    rcases Scan.bind_eq_error_iff.1 failed with failed | ⟨reply, middle, read, finished⟩
    · exact failed
    · exact absurd finished (h reply middle _ _ _)

theorem finishes_readVoid (method : Method) (sequence : Int32) :
    Finishes (read method sequence skip) (readVoid method sequence) := by
  refine finishes_bind fun reply input kind message rest => ?_
  cases reply <;> exact nofun

theorem finishes_readSchema (sequence : Int32) :
    Finishes (read .getSchema sequence readSchemaValue) (readSchema sequence) := by
  refine finishes_bind fun reply input kind message rest => ?_
  match reply with
  | .exception e => exact nofun
  | .value (some columns) => exact nofun
  | .value none => exact nofun

/-! ## The correlation -/

/-- What is decoded belongs to the request. -/
theorem exists_head_of_valueOf_ok {readValue : WireType → Reader β} {q : Reader α}
    (finishes : Finishes (read method sequence readValue) q) {a : α}
    (decoded : q.valueOf bytes = .ok a) :
    ∃ body, messageHead bytes = .ok ⟨.reply, method.name, sequence⟩ body := by
  obtain ⟨rest, decoded⟩ := Scan.valueOf_eq_ok_iff.1 decoded
  obtain ⟨reply, middle, read⟩ := finishes.ok decoded
  exact exists_head_of_read_ok read

/-- **An answer belongs to the request, unless it is stray.** -/
theorem addressed_iff {readValue : WireType → Reader β} (h : ∀ t, Accounts (readValue t))
    {q : Reader α} (finishes : Finishes (read method sequence readValue) q) :
    (IsAnswer (q.valueOf bytes) → Addressed method sequence bytes) ↔
      ¬ Stray method sequence bytes := by
  constructor
  · rintro addressed ⟨head, body, ⟨kind, message⟩, rest, opened, unserved, foreign, failure⟩
    have failed : q bytes = .error (.application kind message) rest :=
      finishes.application.2 ((read_eq_application_iff h).2 ⟨head, body, opened, unserved, failure⟩)
    have answer : IsAnswer (q.valueOf bytes) :=
      isAnswer_iff.2 (.inr ⟨kind, message, Scan.valueOf_eq_error_iff.2 ⟨rest, failed⟩⟩)
    obtain ⟨_, _, own⟩ := addressed answer
    cases opened.symm.trans own
    simp at foreign
  · intro notStray answer
    rcases isAnswer_iff.1 answer with ⟨a, decoded⟩ | ⟨kind, message, decoded⟩
    · obtain ⟨body, opened⟩ := exists_head_of_valueOf_ok finishes decoded
      exact ⟨.reply, body, opened⟩
    · obtain ⟨rest, decoded⟩ := Scan.valueOf_eq_error_iff.1 decoded
      obtain ⟨head, body, opened, unserved, failure⟩ :=
        (read_eq_application_iff h).1 (finishes.application.1 decoded)
      obtain ⟨announced, name, number⟩ := head
      by_cases own : name = method.name ∧ number = sequence
      · obtain ⟨rfl, rfl⟩ := own
        exact ⟨announced, body, opened⟩
      · have foreign : name ≠ method.name ∨ number ≠ sequence := by
          by_cases sameName : name = method.name
          · exact .inr fun sameNumber => own ⟨sameName, sameNumber⟩
          · exact .inl sameName
        exact absurd ⟨_, body, _, rest, opened, unserved, foreign, failure⟩ notStray

/-- **How far replies are correlated with requests.**  A value or a declared exception comes from a
reply with the name of the method and the number of the request.  Any answer does, unless the
message says of another request that it could not be served: that is taken for this one. -/
theorem answer_correlated (method : Method) (sequence : Int32) (bytes : Bytes) :
    ((IsAnswer (decodeVoid method sequence bytes) → Addressed method sequence bytes) ↔
        ¬ Stray method sequence bytes) ∧
      ((IsAnswer (decodeSchema sequence bytes) → Addressed .getSchema sequence bytes) ↔
        ¬ Stray .getSchema sequence bytes) ∧
      (∀ reply, decodeVoid method sequence bytes = .ok reply →
        ∃ body, messageHead bytes = .ok ⟨.reply, method.name, sequence⟩ body) ∧
      ∀ reply, decodeSchema sequence bytes = .ok reply →
        ∃ body, messageHead bytes = .ok ⟨.reply, "get_schema", sequence⟩ body := by
  refine ⟨?_, ?_, ?_, ?_⟩
  · exact addressed_iff accounts_skip (finishes_readVoid method sequence)
  · exact addressed_iff accounts_readSchemaValue (finishes_readSchema sequence)
  · intro reply decoded
    exact exists_head_of_valueOf_ok (finishes_readVoid method sequence) decoded
  · intro reply decoded
    exact exists_head_of_valueOf_ok (finishes_readSchema sequence) decoded

/-- A message about the call numbered 99 of another method is the answer to the first call. -/
theorem isAnswer_of_stray :
    let bytes := Writer.messageHead .exception "other" 99 ++ [WireType.stop.code]
    decodeVoid .createDatabase 1 bytes =
        .error (.application .unknown "general remote error") ∧
      ¬ (IsAnswer (decodeVoid .createDatabase 1 bytes) →
        Addressed .createDatabase 1 bytes) := by
  intro bytes
  have short : (Utf8.encode "other").length < WireValue.sizeLimit := by decide
  have opened : messageHead bytes = .ok ⟨.exception, "other", 99⟩ [WireType.stop.code] :=
    messageHead_append .exception short 99 _
  have failure : readApplicationFailure [WireType.stop.code] =
      .ok (.unknown, "general remote error") [] :=
    Scan.iterate_of_inr rfl
  have failed : read .createDatabase 1 skip bytes =
      .error (.application .unknown "general remote error") [] :=
    (read_eq_application_iff accounts_skip).2 ⟨_, _, opened, rfl, failure⟩
  have decoded : decodeVoid .createDatabase 1 bytes =
      .error (.application .unknown "general remote error") :=
    Scan.valueOf_eq_error_iff.2 ⟨[], Scan.bind_apply_of_error failed⟩
  refine ⟨decoded, fun addressed => ?_⟩
  obtain ⟨kind, body, own⟩ := addressed (isAnswer_iff.2 (.inr ⟨_, _, decoded⟩))
  have same := opened.symm.trans own
  simp [Method.name] at same

end Reply

end MetastoreProbe
