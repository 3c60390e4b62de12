import MetastoreProbe.Proofs.Client.Errors
import MetastoreProbe.Proofs.Client.Records
import MetastoreProbe.Proofs.Client.Transports
import MetastoreProbe.Proofs.Console.Quoted
import MetastoreProbe.Proofs.Run.Course

/-!
# Where answers come from

The exchanges of a run are calls to its client, and their answers are the client's
(`Run.answers_of_performed`).  So what an answer brings along (`Exchange.texts`) is what the client
was told.  Over a plain connection that is the text of a failure or a part of a column, as the link
delivered it (`PlainLink.Delivers`); nothing else in an answer can forge a line, and in particular
no exception can, whatever its message is (`PlainClient.delivers_of_answers`).
-/

namespace MetastoreProbe

variable {σ α β : Type}

open Console

/-! ## Answers -/

/-- The client gives this answer to this call, in some state.  Nobody hears what becomes of closing
it. -/
def Client.Answers (client : Client σ) : Exchange → Prop
  | .createDatabase name answer => ∃ s, answerOf (client.createDatabase name s) = answer
  | .createTable table answer => ∃ s, answerOf (client.createTable table s) = answer
  | .getSchema database table answer => ∃ s, answerOf (client.getSchema database table s) = answer
  | .close _ => True

/-- If all exchanges satisfied `P` before the action, all do after it. -/
def Session.Preserves (P : Exchange → Prop) (p : EStateM Error (Session σ) α) : Prop :=
  ∀ s, (∀ x ∈ s.exchanges, P x) → ∀ x ∈ (leftBy (p s)).exchanges, P x

namespace Session

variable {P : Exchange → Prop}

theorem Preserves.pure (a : α) : Preserves P (Pure.pure a : EStateM Error (Session σ) α) :=
  fun _ held => held

theorem Preserves.throw (e : Error) :
    Preserves P (throwThe Error e : EStateM Error (Session σ) α) :=
  fun _ held => held

theorem Preserves.print (entry : Entry) :
    Preserves P (Session.print entry : EStateM Error (Session σ) Unit) :=
  fun _ held => held

theorem Preserves.bind {p : EStateM Error (Session σ) α} {f : α → EStateM Error (Session σ) β}
    (first : Preserves P p) (next : ∀ a, Preserves P (f a)) : Preserves P (p >>= f) := by
  intro s held
  have middle := first s held
  simp only [Bind.bind, EStateM.bind]
  cases h : p s with
  | ok a t =>
    rw [h] at middle
    exact next a t middle
  | error e t =>
    rw [h] at middle
    exact middle

/-- A call adds its exchange and no other one. -/
theorem preserves_call {operation : EStateM Error σ α} {record : Except Error α → Exchange}
    (answers : ∀ s, P (record (Client.answerOf (operation s)))) :
    Preserves P (call operation record) := by
  intro s held
  have added := answers s.client
  unfold call
  cases h : operation s.client with
  | ok a client | error e client =>
    rw [h] at added
    exact List.forall_mem_append.2 ⟨held, List.forall_mem_singleton.2 added⟩

end Session

open Session (Preserves)

/-! ## The exchanges of a run -/

section Run

variable (client : Client σ)

theorem Client.preserves_ensureDatabase (name : String) :
    Preserves client.Answers (client.ensureDatabase name) :=
  Session.preserves_call fun s => ⟨s, rfl⟩

theorem Client.preserves_ensureTable (table : Table) :
    Preserves client.Answers (client.ensureTable table) := by
  refine (Session.preserves_call fun s => ⟨s, rfl⟩).bind fun outcome => ?_
  cases outcome with
  | created => exact .pure _
  | alreadyExisted => exact (Preserves.print _).bind fun _ => .pure _

theorem Scenario.preserves_check (database : String) (settings : ScenarioSettings)
    (scenario : Scenario) : Preserves client.Answers (scenario.check client database settings) := by
  have fetch : Preserves client.Answers (client.fetchSchema database scenario.tableName) :=
    Session.preserves_call fun s => ⟨s, rfl⟩
  refine (client.preserves_ensureTable _).bind fun outcome => fetch.bind fun schema => ?_
  refine Preserves.bind ?_ fun _ => .pure _
  cases Schema.compare scenario.label schema (scenario.table settings database).schema with
  | ok u => exact .pure u
  | error e => exact .throw e

theorem Scenario.preserves_checkAll (database : String) (settings : ScenarioSettings)
    (scenarios : List Scenario) :
    Preserves client.Answers (Scenario.checkAll client database settings scenarios) := by
  induction scenarios with
  | nil => exact .pure _
  | cons scenario rest ih =>
    exact (scenario.preserves_check client database settings).bind fun _ => ih.bind fun _ => .pure _

theorem Run.preserves_tryDenied (database : String) :
    Preserves client.Answers (tryDeniedDatabase client database) := by
  intro s held
  have asked := client.preserves_ensureDatabase database s held
  unfold tryDeniedDatabase
  split
  next h => rwa [h] at asked
  next h => rwa [h] at asked
  next h => rwa [h] at asked

theorem Run.preserves_suite (run : Run) : Preserves client.Answers (Suite.perform client run) := by
  unfold Suite.perform
  cases run.suite with
  | schema scenarios =>
    have checks := Scenario.preserves_checkAll client run.database run.scenarios scenarios
    exact (client.preserves_ensureDatabase run.database).bind fun _ =>
      checks.bind fun _ => .pure _
  | authorization =>
    refine (Run.preserves_tryDenied client run.database).bind fun outcome => ?_
    cases outcome with
    | allowed => exact .throw _
    | denied => exact .pure _

/-- **The answers in a run are answers of its client.** -/
theorem Run.answers_of_performed (run : Run) (state : σ) :
    ∀ x ∈ (run.performed client state).exchanges, client.Answers x := by
  have checked := Run.preserves_suite client run { client := state } (List.forall_mem_nil _)
  obtain ⟨-, -, ⟨-, made⟩ | ⟨-, answer, made⟩⟩ := Run.performed_eq client run state
  · rwa [made]
  · rw [made]
    exact List.forall_mem_append.2 ⟨checked, List.forall_mem_singleton.2 trivial⟩

end Run

/-! ## What answers bring along -/

/-- The texts that an answer brings along: those that its error quotes, or the parts of columns. -/
def Exchange.texts : Exchange → List String
  | .createDatabase _ (.error e) | .createTable _ (.error e) | .getSchema _ _ (.error e) => e.quoted
  | .getSchema _ _ (.ok schema) => schema.texts
  | .createDatabase _ (.ok _) | .createTable _ (.ok _) | .close _ => []

/-- The link can deliver this text, as that of a failure or as a part of a column. -/
inductive PlainLink.Delivers (link : PlainLink σ) : String → Prop
  | databaseFailure {request : WireValue} {s : σ} {text : String}
    (delivered : (link.createDatabase request s).1 = .failure text) : link.Delivers text
  | tableFailure {request : WireValue} {s : σ} {text : String}
    (delivered : (link.createTable request s).1 = .failure text) : link.Delivers text
  | schemaFailure {request : WireValue} {s : σ} {text : String}
    (delivered : (link.getSchema request s).1 = .failure text) : link.Delivers text
  | column {request : WireValue} {s : σ} {fields : List FieldRecord} {f : FieldRecord}
    {text : String} (delivered : (link.getSchema request s).1 = .value fields) (given : f ∈ fields)
    (part : text ∈ f.texts) : link.Delivers text

namespace PlainClient

variable {link : PlainLink σ}

/-- The name that an exception is given, its method and its text have no line feed. -/
theorem forgedBy_remoteError (exceptions : ExceptionTexts) (method : Method)
    (slot : Fin method.exceptions.length) (message : Option String) :
    forgedBy (remoteError method (exceptions.text method slot message)).quoted = 0 := by
  have text : forged (exceptions.text method slot message) = 0 :=
    forged_of_lineFeed_not_mem (exceptions.lineFeed_not_mem method slot message)
  have name : forged method.name = 0 := by cases method <;> decide
  have existing : forged "AlreadyExistsException" = 0 := by decide
  have other : forged "ThriftException" = 0 := by decide
  simp only [remoteError, Error.quoted, MetastoreError.quoted, forgedBy_cons, forgedBy_nil, name,
    text]
  split <;> simp only [existing, other]

theorem forgedBy_failed (method : Method) (text : String) :
    forgedBy (failed method text).quoted = forged text := by
  have action : forged (action method) = 0 := by cases method <;> decide
  simp only [failed, Error.quoted, MetastoreError.quoted, TransportFault.quoted, forgedBy_cons,
    forgedBy_nil, action, Nat.zero_add, Nat.add_zero]

/-- What can be forged with a creation that failed is in the text of a failure. -/
theorem exists_failure_of_createOutcome {exceptions : ExceptionTexts} {method : Method}
    {delivery : Delivery method Unit} {e : Error}
    (failed : createOutcome exceptions method delivery = .error e)
    (forges : forgedBy e.quoted ≠ 0) :
    ∃ text, delivery = .failure text ∧ forged text ≠ 0 := by
  unfold createOutcome at failed
  split at failed
  next => cases failed
  next slot message =>
    split at failed
    · cases failed
    · cases failed
      exact absurd (forgedBy_remoteError exceptions method slot message) forges
  next text =>
    split at failed
    · cases failed
    · cases failed
      rw [forgedBy_failed] at forges
      exact ⟨text, rfl, forges⟩

/-- What can be forged with a schema that could not be had is in the text of a failure. -/
theorem exists_failure_of_schemaOutcome {exceptions : ExceptionTexts}
    {delivery : Delivery .getSchema (List FieldRecord)} {e : Error}
    (failed : schemaOutcome exceptions delivery = .error e) (forges : forgedBy e.quoted ≠ 0) :
    ∃ text, delivery = .failure text ∧ forged text ≠ 0 := by
  cases delivery with
  | value fields => cases failed
  | exception slot message =>
    cases failed
    exact absurd (forgedBy_remoteError exceptions .getSchema slot message) forges
  | failure text =>
    cases failed
    rw [forgedBy_failed] at forges
    exact ⟨text, rfl, forges⟩

/-- A part of a column that is not empty was delivered. -/
theorem mem_texts_of_mem_column {f : FieldRecord} {text : String} (part : text ∈ f.column.texts)
    (nonempty : text ≠ "") : text ∈ f.texts := by
  have given {part : Option String} (own : text = part.getD "") : text ∈ part.toList := by
    cases part with
    | none => exact absurd own nonempty
    | some told => exact List.mem_singleton.2 own
  simp only [Column.texts, FieldRecord.column, List.mem_cons, List.not_mem_nil, or_false] at part
  simp only [FieldRecord.texts, List.mem_append, or_assoc]
  exact part.imp given (Or.imp given given)

/-- What can be forged with a schema is in a part of a column that was delivered. -/
theorem exists_part_of_schemaOutcome {exceptions : ExceptionTexts}
    {delivery : Delivery .getSchema (List FieldRecord)} {schema : Schema}
    (answered : schemaOutcome exceptions delivery = .ok schema)
    (forges : forgedBy schema.texts ≠ 0) :
    ∃ fields, delivery = .value fields ∧ ∃ f ∈ fields, ∃ text ∈ f.texts, forged text ≠ 0 := by
  cases delivery with
  | exception | failure => cases answered
  | value fields =>
    cases answered
    obtain ⟨text, shown, forges⟩ := exists_forged forges
    obtain ⟨c, column, part⟩ := List.mem_flatMap.1 shown
    obtain ⟨f, field, rfl⟩ := List.mem_map.1 column
    have nonempty : text ≠ "" := by
      rintro rfl
      exact forges (by decide)
    exact ⟨fields, rfl, f, field, text, mem_texts_of_mem_column part nonempty, forges⟩

/-- A client answers with what was delivered, unless it is closed. -/
theorem delivered_of_answerOf {δ : Type} {send : StateM σ δ} {outcome : δ → Except Error α}
    {c : PlainClient σ} {answer : Except Error α}
    (answered : Client.answerOf (call send outcome c) = answer)
    (isOpen : answer ≠ .error (.metastore .closed)) : outcome (send c.link).1 = answer := by
  cases closed : c.closed with
  | false => exact (Creation.answerOf_call closed send outcome).symm.trans answered
  | true =>
    rw [call, if_pos closed] at answered
    exact absurd answered.symm isOpen

/-- An error with which a line can be forged is not that of a closed client. -/
theorem ne_closed_of_forgedBy {e : Error} (forges : forgedBy e.quoted ≠ 0) :
    (.error e : Except Error α) ≠ .error (.metastore .closed) := by
  rintro ⟨⟩
  exact forges rfl

/-- A creation that failed so was delivered as a failure. -/
theorem exists_failure_of_creation {exceptions : ExceptionTexts} {method : Method}
    {send : StateM σ (Delivery method Unit)} {c : PlainClient σ} {e : Error}
    (answered : Client.answerOf (call send (createOutcome exceptions method) c) = .error e)
    (forges : forgedBy e.quoted ≠ 0) : ∃ text, (send c.link).1 = .failure text ∧ forged text ≠ 0 :=
  have failed := delivered_of_answerOf answered (ne_closed_of_forgedBy forges)
  exists_failure_of_createOutcome failed forges

/-- **Whatever can be forged with an answer was delivered**, as the text of a failure or in a
column. -/
theorem delivers_of_answers {now : Int32} {x : Exchange} (answers : (client link now).Answers x)
    (forges : forgedBy x.texts ≠ 0) : ∃ text, link.Delivers text ∧ forged text ≠ 0 := by
  cases x with
  | close => exact absurd rfl forges
  | createDatabase name answer =>
    obtain ⟨c, answered⟩ := answers
    cases answer with
    | ok outcome => exact absurd rfl forges
    | error e =>
      obtain ⟨text, delivered, forges⟩ := exists_failure_of_creation answered forges
      exact ⟨text, .databaseFailure delivered, forges⟩
  | createTable table answer =>
    obtain ⟨c, answered⟩ := answers
    cases answer with
    | ok outcome => exact absurd rfl forges
    | error e =>
      obtain ⟨text, delivered, forges⟩ := exists_failure_of_creation answered forges
      exact ⟨text, .tableFailure delivered, forges⟩
  | getSchema database table answer =>
    obtain ⟨c, answered⟩ := answers
    cases answer with
    | ok schema =>
      have told := delivered_of_answerOf answered nofun
      obtain ⟨fields, delivered, f, field, text, part, forges⟩ :=
        exists_part_of_schemaOutcome told forges
      exact ⟨text, .column delivered field part, forges⟩
    | error e =>
      have failed := delivered_of_answerOf answered (ne_closed_of_forgedBy forges)
      obtain ⟨text, delivered, forges⟩ := exists_failure_of_schemaOutcome failed forges
      exact ⟨text, .schemaFailure delivered, forges⟩

end PlainClient

end MetastoreProbe
