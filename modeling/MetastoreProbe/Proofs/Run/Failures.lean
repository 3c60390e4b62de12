import MetastoreProbe.Program
import MetastoreProbe.Proofs.Client.Errors
import MetastoreProbe.Proofs.Run.Course

/-!
# On whose account runs fail

An error says on whose account something failed (`Error.exit`).  Those that blame the user are
found before anything is dialled; what can go wrong later is on the account of the metastore, of the
connection or of a check (`Error.IsFailure`), if the client does not break down.

What a run fails with comes from a call of its client (`Client.CallsFailOnly`) or from a check.
This is carried through everything that the checks are made of, up to a run that was dialled for
(`Run.Executed.of_plain`).
-/

namespace MetastoreProbe

variable {σ α : Type}

/-- The error is one of the metastore, of the connection or of a check. -/
def Error.IsFailure (e : Error) : Prop :=
  e.exit = .failure

theorem Error.IsMetastore.isFailure {e : Error} (h : e.IsMetastore) : e.IsFailure := by
  obtain ⟨error, rfl⟩ := h
  rfl

theorem Error.OfCall.isFailure {e : Error} (h : e.OfCall) (answered : e ≠ .breakdown) :
    e.IsFailure := by
  cases e with
  | metastore | io => rfl
  | breakdown => exact absurd rfl answered
  | usage | config | schemaMismatch | authorizationNotEnforced => exact h.elim

/-- The error is one in which a check reports what it found. -/
inductive Error.OfCheck : Error → Prop
  | mismatch (scenario actual expected : String) :
    OfCheck (.schemaMismatch scenario actual expected)
  | notEnforced (database : String) : OfCheck (.authorizationNotEnforced database)

theorem Error.OfCheck.isFailure {e : Error} (h : e.OfCheck) : e.IsFailure := by
  cases h <;> rfl

/-! ## How checks fail

A check fails as its calls do, or with a schema that is not the expected one.
-/

section Checks

variable {P : Error → Prop} {client : Client σ}

theorem Session.failsOnly_call {operation : EStateM Error σ α} (fails : FailsOnly P operation)
    (record : Except Error α → Exchange) : FailsOnly P (call operation record) := by
  intro s e s' failed
  unfold call at failed
  cases h : operation s.client with
  | ok a client => simp [h] at failed
  | error e' client =>
    simp only [h] at failed
    cases failed
    exact fails s.client e client h

theorem Session.failsOnly_print (entry : Console.Entry) :
    FailsOnly P (print entry : EStateM Error (Session σ) Unit) := nofun

theorem Client.failsOnly_ensureTable {table : Table}
    (fails : FailsOnly P (client.createTable table)) : FailsOnly P (client.ensureTable table) := by
  refine (Session.failsOnly_call fails _).bind fun outcome => ?_
  cases outcome with
  | created => exact .pure _
  | alreadyExisted => exact (Session.failsOnly_print _).bind fun _ => .pure _

theorem Scenario.failsOnly_check {database : String} {settings : ScenarioSettings}
    {scenario : Scenario}
    (provide : FailsOnly P (client.createTable (scenario.table settings database)))
    (fetch : FailsOnly P (client.getSchema database scenario.tableName))
    (differ : ∀ schema ≠ Schema.oneColumn,
      P (.schemaMismatch scenario.label schema.text Schema.oneColumn.text)) :
    FailsOnly P (scenario.check client database settings) := by
  have fetched := Session.failsOnly_call fetch (.getSchema database scenario.tableName)
  unfold check
  refine (Client.failsOnly_ensureTable provide).bind fun outcome => fetched.bind fun schema =>
    FailsOnly.bind ?_ fun _ => .pure _
  unfold Schema.compare
  split
  · exact .pure _
  next different => exact .throw (differ schema different)

end Checks

/-! ## Checks on a client of which the errors are known -/

section Checks

variable {P : Error → Prop} {client : Client σ} (h : client.CallsFailOnly P)
  (checks : ∀ e, e.OfCheck → P e)

include h

/-- Of the attempt on a database that is to be refused only a breakdown is passed on. -/
theorem Run.failsOnly_tryDenied (database : String) :
    FailsOnly P (tryDeniedDatabase client database) := by
  have provide := Session.failsOnly_call (h.createDatabase database) (.createDatabase database)
  intro s e s' failed
  unfold tryDeniedDatabase at failed
  split at failed
  · cases failed
  next broke =>
    cases failed
    exact provide s _ _ broke
  · cases failed

include checks

theorem Scenario.failsOnly_checkAll (database : String) (settings : ScenarioSettings)
    (scenarios : List Scenario) :
    FailsOnly P (Scenario.checkAll client database settings scenarios) := by
  induction scenarios with
  | nil => exact .pure _
  | cons scenario rest ih =>
    have check : FailsOnly P (scenario.check client database settings) :=
      Scenario.failsOnly_check (h.createTable _) (h.getSchema _ _)
        fun _ _ => checks _ (.mismatch _ _ _)
    exact check.bind fun report => ih.bind fun reports => .pure _

/-- **The checks of a run fail as the calls of the client do**, or with what a check found. -/
theorem Run.failsOnly_suite (run : Run) : FailsOnly P (Suite.perform client run) := by
  unfold Suite.perform
  cases run.suite with
  | schema scenarios =>
    have provide := Session.failsOnly_call (h.createDatabase run.database)
      (.createDatabase run.database)
    have check := Scenario.failsOnly_checkAll h checks run.database run.scenarios scenarios
    exact provide.bind fun outcome => check.bind fun reports => .pure _
  | authorization =>
    refine (Run.failsOnly_tryDenied h run.database).bind fun outcome => ?_
    cases outcome with
    | allowed => exact .throw (checks _ (.notEnforced _))
    | denied => exact .pure _

theorem Run.fails_of_performed {run : Run} {state : σ} {e : Error}
    (failed : (run.performed client state).result = .error e) : P e := by
  obtain ⟨verdict, -, -⟩ := Run.performed_eq client run state
  rw [verdict] at failed
  cases suite : Suite.perform client run { client := state } with
  | ok report t =>
    rw [suite] at failed
    cases failed
  | error e' t =>
    rw [suite] at failed
    cases failed
    exact Run.failsOnly_suite h checks run _ e t suite

end Checks

/-- Over a plain connection, a run fails without blame on the user, and it does not break down. -/
theorem PlainClient.isFailure_of_performed {link : PlainLink σ} {now : Int32} {run : Run}
    {c : PlainClient σ} {e : Error}
    (failed : (run.performed (client link now) c).result = .error e) : e.IsFailure :=
  Run.fails_of_performed ((callsFailOnly link now).mono fun _ => (·.isFailure))
    (fun _ => (·.isFailure)) failed

/-- Over frames, a run fails without blame on the user, if it does not break down. -/
theorem SaslClient.isFailure_of_performed {now : Int32} {run : Run} {c : SaslClient} {e : Error}
    (failed : (run.performed (client now) c).result = .error e) (answered : e ≠ .breakdown) :
    e.IsFailure := by
  have fails : e.OfCall ∨ e.OfCheck :=
    Run.fails_of_performed (P := fun e => e.OfCall ∨ e.OfCheck)
      ((callsFailOnly now).mono fun _ => .inl) (fun _ => .inr) failed
  exact fails.elim (·.isFailure answered) (·.isFailure)

/-! ## Executing a run -/

/-- **A run that was dialled for fails without blame on the user.** -/
theorem Run.Executed.of_plain {network : Network σ} {now : Int32} {run : Run} {e : Execution}
    (executed : run.Executed network now e) (plain : run.target.kerberos = none) :
    e.dialled = [run.target.address] ∧ ∀ error, e.result = .error error → error.IsFailure := by
  cases executed with
  | refused asked => cases asked.symm.trans plain
  | unreached =>
    refine ⟨rfl, ?_⟩
    rintro _ ⟨⟩
    rfl
  | dialled => exact ⟨rfl, fun _ => PlainClient.isFailure_of_performed⟩

end MetastoreProbe
