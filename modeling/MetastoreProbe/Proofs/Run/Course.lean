import MetastoreProbe.Execution
import MetastoreProbe.Proofs.Client.Session

/-!
# Courses of a run

What the checks of a run can do, said once: `Scenario.Course`, `Scenario.CourseAll` and `Run.Course`
list the ways in which one scenario, a list of them and a whole run can go, each with the calls it
makes and the answers it gets, and with what comes of it.  `Run.exists_course` says that a run on
any client takes one of these courses, whatever the client answers and whatever it keeps between
calls.

The client is arbitrary, so a course is the only thing that is known of a run: the laws about
calls and verdicts follow from the courses alone, and the programs that make the calls are not
opened again.  In the same way `Run.Executed` lists what can come of connecting first and then
making the checks (`Run.executed`).
-/

namespace MetastoreProbe

open Console (Entry)

/-! ## Exchanges and notices -/

/-- What is printed on account of a call: that a table existed already. -/
def Exchange.notice? : Exchange → Option Entry
  | .createTable table (.ok .alreadyExisted) =>
    some (.tagged .info s!"Table {table.name} already existed")
  | _ => none

namespace Session

variable {σ α β : Type} {s : Session σ} {xs ys : List Exchange}

/-- The action made the exchanges `xs`, came to `result`, and printed just the notices that the
exchanges call for. -/
def Made (s : Session σ) (xs : List Exchange) (result : Except Error α)
    (r : EStateM.Result Error (Session σ) α) : Prop :=
  s.Took xs (xs.filterMap Exchange.notice?) result r

theorem Made.bind_error {p : EStateM Error (Session σ) α} {f : α → EStateM Error (Session σ) β}
    {e : Error} (h : s.Made xs (.error e) (p s)) : s.Made xs (.error e) ((p >>= f) s) :=
  Took.bind_error h

theorem Made.bind_ok {p : EStateM Error (Session σ) α} {f : α → EStateM Error (Session σ) β}
    {a : α} {result : Except Error β} (h : s.Made xs (.ok a) (p s))
    (next : (leftBy (p s)).Made ys result (f a (leftBy (p s)))) :
    s.Made (xs ++ ys) result ((p >>= f) s) := by
  unfold Made
  rw [List.filterMap_append]
  exact Took.bind_ok h next

theorem made_ofExcept (result : Except Error α) (s : Session σ) :
    s.Made [] result (Session.ofExcept result s) := by
  cases result with
  | ok a => exact took_pure a s
  | error e => exact took_throw e s

end Session

/-! ## One scenario -/

/-- The ways in which the check of a scenario can go, each with its exchanges. -/
inductive Scenario.Course (database : String) (settings : ScenarioSettings) (scenario : Scenario) :
    List Exchange → Except Error ScenarioReport → Prop
  /-- The table was refused. -/
  | refused (e : Error) :
    Course database settings scenario
      [.createTable (scenario.table settings database) (.error e)] (.error e)
  /-- The schema could not be had. -/
  | withheld (outcome : CreateOutcome) (e : Error) :
    Course database settings scenario
      [.createTable (scenario.table settings database) (.ok outcome),
        .getSchema database scenario.tableName (.error e)] (.error e)
  /-- The schema is another one than expected. -/
  | differed (outcome : CreateOutcome) (schema : Schema) (different : schema ≠ Schema.oneColumn) :
    Course database settings scenario
      [.createTable (scenario.table settings database) (.ok outcome),
        .getSchema database scenario.tableName (.ok schema)]
      (.error (.schemaMismatch scenario.label schema.text Schema.oneColumn.text))
  | passed (outcome : CreateOutcome) :
    Course database settings scenario
      [.createTable (scenario.table settings database) (.ok outcome),
        .getSchema database scenario.tableName (.ok Schema.oneColumn)]
      (.ok ⟨scenario, scenario.tableName, outcome, Schema.oneColumn⟩)

section Programs

variable {σ : Type} (client : Client σ) (database : String) (settings : ScenarioSettings)

/-- Providing a table is one call, and it is told if the table existed. -/
theorem Client.exists_made_ensureTable (table : Table) (s : Session σ) :
    ∃ answer, s.Made [.createTable table answer] answer (client.ensureTable table s) := by
  obtain ⟨answer, called⟩ :=
    Session.exists_took_call (client.createTable table) (.createTable table) s
  refine ⟨answer, ?_⟩
  unfold ensureTable
  match answer with
  | .error e => exact called.bind_error
  | .ok .created => exact called.bind_ok (Session.took_pure _ _)
  | .ok .alreadyExisted =>
    exact called.bind_ok ((Session.took_print _ _).bind_ok (Session.took_pure _ _))

/-- **The check of a scenario takes one of its courses.** -/
theorem Scenario.exists_made_check (scenario : Scenario) (s : Session σ) :
    ∃ xs result, scenario.Course database settings xs result ∧
      s.Made xs result (scenario.check client database settings s) := by
  obtain ⟨answer, provided⟩ :=
    client.exists_made_ensureTable (scenario.table settings database) s
  unfold check
  match answer with
  | .error e => exact ⟨_, _, .refused e, provided.bind_error⟩
  | .ok outcome =>
    obtain ⟨answer, fetched⟩ := Session.exists_took_call
      (client.getSchema database scenario.tableName)
      (.getSchema database scenario.tableName)
      (Session.leftBy (client.ensureTable (scenario.table settings database) s))
    replace fetched : Session.Made _ _ answer _ := fetched
    match answer with
    | .error e => exact ⟨_, _, .withheld outcome e, provided.bind_ok fetched.bind_error⟩
    | .ok schema =>
      by_cases same : schema = Schema.oneColumn
      · subst same
        refine ⟨_, _, .passed outcome, provided.bind_ok (fetched.bind_ok ?_)⟩
        exact (Session.made_ofExcept (.ok ()) _).bind_ok (Session.took_pure _ _)
      · have compared : Schema.compare scenario.label schema Schema.oneColumn =
            .error (.schemaMismatch scenario.label schema.text Schema.oneColumn.text) :=
          if_neg same
        refine ⟨_, _, .differed outcome schema same, provided.bind_ok (fetched.bind_ok ?_)⟩
        rw [schema_table, compared]
        exact (Session.made_ofExcept (.error _) _).bind_error

end Programs

/-! ## A list of scenarios -/

/-- The ways in which the checks of scenarios can go: they stop with the first one that fails. -/
inductive Scenario.CourseAll (database : String) (settings : ScenarioSettings) :
    List Scenario → List Exchange → Except Error (List ScenarioReport) → Prop
  | nil : CourseAll database settings [] [] (.ok [])
  | stopped {scenario : Scenario} {xs : List Exchange} {e : Error} (rest : List Scenario)
    (course : scenario.Course database settings xs (.error e)) :
    CourseAll database settings (scenario :: rest) xs (.error e)
  | passed {scenario : Scenario} {rest : List Scenario} {xs ys : List Exchange}
    {report : ScenarioReport} {result : Except Error (List ScenarioReport)}
    (course : scenario.Course database settings xs (.ok report))
    (more : CourseAll database settings rest ys result) :
    CourseAll database settings (scenario :: rest) (xs ++ ys) (result.map (report :: ·))

/-- **The checks of scenarios take one of their courses.** -/
theorem Scenario.exists_made_checkAll {σ : Type} (client : Client σ) (database : String)
    (settings : ScenarioSettings) (scenarios : List Scenario) (s : Session σ) :
    ∃ xs result, Scenario.CourseAll database settings scenarios xs result ∧
      s.Made xs result (Scenario.checkAll client database settings scenarios s) := by
  induction scenarios generalizing s with
  | nil => exact ⟨_, _, .nil, Session.took_pure _ s⟩
  | cons scenario rest ih =>
    obtain ⟨xs, result, course, checked⟩ :=
      scenario.exists_made_check client database settings s
    unfold checkAll
    match result with
    | .error e => exact ⟨_, _, .stopped rest course, checked.bind_error⟩
    | .ok report =>
      obtain ⟨ys, result, more, checkedRest⟩ :=
        ih (Session.leftBy (scenario.check client database settings s))
      exact ⟨_, _, .passed course more, checked.bind_ok (checkedRest.bind_pure (report :: ·))⟩

/-! ## A run -/

/-- The ways in which a run can go before the client is closed: the exchanges, what is printed, and
the verdict. -/
inductive Run.Course (run : Run) : List Exchange → List Entry → Except Error Report → Prop
  /-- The database of the schema suite could not be had. -/
  | unprovided {scenarios : List Scenario} (suite : run.suite = .schema scenarios) (e : Error) :
    Course run [.createDatabase run.database (.error e)] [] (.error e)
  /-- The schema suite came to its scenarios. -/
  | checked {scenarios : List Scenario} (suite : run.suite = .schema scenarios)
    (outcome : CreateOutcome) {xs : List Exchange} {result : Except Error (List ScenarioReport)}
    (course : Scenario.CourseAll run.database run.scenarios scenarios xs result) :
    Course run (.createDatabase run.database (.ok outcome) :: xs)
      (xs.filterMap Exchange.notice?)
      (result.map fun reports => { database := some outcome, scenarios := reports })
  /-- The database that was to be refused was provided. -/
  | allowed (suite : run.suite = .authorization) (outcome : CreateOutcome) :
    Course run [.createDatabase run.database (.ok outcome)] []
      (.error (.authorizationNotEnforced run.database))
  | denied (suite : run.suite = .authorization) (e : Error) (answered : e ≠ .breakdown) :
    Course run [.createDatabase run.database (.error e)] [.tagged .denied e.message]
      (.ok { authorization := some (.denied e.message) })
  /-- The client broke down where it was to be refused. -/
  | brokeDown (suite : run.suite = .authorization) :
    Course run [.createDatabase run.database (.error .breakdown)] [] (.error .breakdown)

/-- What the checks of a run on an open client show. -/
def Run.performed {σ : Type} (client : Client σ) (run : Run) (state : σ) : Execution :=
  .ofChecks [] (run.perform client { client := state })

/-! ### Executing a run -/

/-- What was dialled is not changed by the checks. -/
theorem Execution.ofChecks_eq {σ : Type} (dialled : List String)
    (r : EStateM.Result Error (Session σ) Report) :
    ofChecks dialled r = { ofChecks [] r with dialled } := by
  cases r <;> rfl

namespace Run

variable {σ : Type}

/-- The ways in which executing a run can go, each with what it shows. -/
inductive Executed (network : Network σ) (now : Int32) (run : Run) : Execution → Prop
  /-- Kerberos is asked for, and the run is given up before anything is dialled. -/
  | refused {kerberos : KerberosSettings} (asked : run.target.kerberos = some kerberos) :
    Executed network now run
      { dialled := []
        result := .error (.config (.noKerberos (kerberos.hostBasedService run.target.host))) }
  | unreached {reason : String} (plain : run.target.kerberos = none)
    (dial : network.dial run.target = .error reason) :
    Executed network now run
      { dialled := [run.target.address]
        result := .error (Network.unreached run.target reason) }
  /-- The checks are made on an open client. -/
  | dialled {link : σ} (plain : run.target.kerberos = none)
    (dial : network.dial run.target = .ok link) :
    Executed network now run
      { run.performed (PlainClient.client network.link now) { link } with
        dialled := [run.target.address] }

/-- **Executing a run goes one of these ways.** -/
theorem executed (network : Network σ) (now : Int32) (run : Run) :
    run.Executed network now (run.execute network now) := by
  unfold execute Network.connect
  cases kerberos : run.target.kerberos with
  | some asked => exact .refused kerberos
  | none =>
    cases dial : network.dial run.target with
    | error reason => exact .unreached kerberos dial
    | ok link =>
      dsimp only
      rw [Execution.ofChecks_eq [_]]
      exact .dialled kerberos dial

/-! ### The checks of a run -/

variable (client : Client σ) (database : String) {s : Session σ} {xs : List Exchange}

/-! The attempt on a database that is to be refused is a call, read the other way round. -/

theorem took_tryDenied_of_ok {outcome : CreateOutcome}
    (called : s.Took xs [] (.ok outcome) (client.ensureDatabase database s)) :
    s.Took xs [] (.ok .allowed) (tryDeniedDatabase client database s) := by
  obtain ⟨hresult, hexchanges, hconsole⟩ := called
  unfold tryDeniedDatabase
  cases h : client.ensureDatabase database s with
  | ok a t =>
    simp only [h, Session.leftBy_ok] at hexchanges hconsole
    exact ⟨rfl, hexchanges, hconsole⟩
  | error e t => simp [h] at hresult

theorem took_tryDenied_of_error {e : Error} (answered : e ≠ .breakdown)
    (called : s.Took xs [] (.error e) (client.ensureDatabase database s)) :
    s.Took xs [.tagged .denied e.message] (.ok (.denied e.message))
      (tryDeniedDatabase client database s) := by
  obtain ⟨hresult, hexchanges, hconsole⟩ := called
  unfold tryDeniedDatabase
  cases h : client.ensureDatabase database s with
  | ok a t => simp [h] at hresult
  | error e' t =>
    simp only [h, Session.resultOf_error, Session.leftBy_error, Except.error.injEq,
      List.append_nil] at hresult hexchanges hconsole
    subst hresult
    split
    next _ _ _ eq => cases eq
    next _ eq => cases eq; exact absurd rfl answered
    next _ _ _ eq =>
      cases eq
      exact ⟨rfl, hexchanges, by simp [Session.printed, hconsole]⟩

theorem took_tryDenied_of_breakdown
    (called : s.Took xs [] (.error .breakdown) (client.ensureDatabase database s)) :
    s.Took xs [] (.error .breakdown) (tryDeniedDatabase client database s) := by
  obtain ⟨hresult, hexchanges, hconsole⟩ := called
  unfold tryDeniedDatabase
  cases h : client.ensureDatabase database s with
  | ok a t => simp [h] at hresult
  | error e t =>
    simp only [h, Session.resultOf_error, Session.leftBy_error, Except.error.injEq]
      at hresult hexchanges hconsole
    subst hresult
    exact ⟨rfl, hexchanges, hconsole⟩

/-- The checks of a run take one of its courses. -/
theorem exists_took_suite (run : Run) (s : Session σ) :
    ∃ xs es result, run.Course xs es result ∧ s.Took xs es result (Suite.perform client run s) := by
  obtain ⟨answer, called⟩ := Session.exists_took_call (client.createDatabase run.database)
    (.createDatabase run.database) s
  unfold Suite.perform
  cases suite : run.suite with
  | schema scenarios =>
    match answer with
    | .error e => exact ⟨_, _, _, .unprovided suite e, called.bind_error⟩
    | .ok outcome =>
      obtain ⟨xs, result, course, checked⟩ := Scenario.exists_made_checkAll client run.database
        run.scenarios scenarios (Session.leftBy (client.ensureDatabase run.database s))
      exact ⟨_, _, _, .checked suite outcome course, called.bind_ok (checked.bind_pure _)⟩
  | authorization =>
    match answer with
    | .ok outcome =>
      exact ⟨_, _, _, .allowed suite outcome,
        (took_tryDenied_of_ok client run.database called).bind_ok (Session.took_throw _ _)⟩
    | .error e =>
      by_cases broke : e = .breakdown
      · subst broke
        exact ⟨_, _, _, .brokeDown suite,
          (took_tryDenied_of_breakdown client run.database called).bind_error⟩
      · exact ⟨_, _, _, .denied suite e broke,
          (took_tryDenied_of_error client run.database broke called).bind_ok
            (Session.took_pure _ _)⟩

/-- How a run ends once its checks have made the exchanges `xs`: the client is closed, whatever
that comes to, unless it broke down. -/
def Closed (xs : List Exchange) (e : Execution) : Prop :=
  (e.result = .error .breakdown ∧ e.exchanges = xs) ∨
    (e.result ≠ .error .breakdown ∧ ∃ answer, e.exchanges = xs ++ [.close answer])

/-- Closing the client is one more call, which prints nothing. -/
theorem exists_shutDown (t : Session σ) :
    ∃ answer, (Session.leftBy (client.shutDown t)).exchanges = t.exchanges ++ [.close answer] ∧
      (Session.leftBy (client.shutDown t)).console = t.console := by
  obtain ⟨answer, -, made, silent⟩ := Session.exists_took_call client.close .close t
  exact ⟨answer, made, silent.trans (List.append_nil _)⟩

theorem perform_of_ok {run : Run} {s t : Session σ} {report : Report}
    (h : Suite.perform client run s = .ok report t) :
    run.perform client s = .ok report (Session.leftBy (client.shutDown t)) := by
  cases hs : client.shutDown t <;> simp [perform, h, hs]

theorem perform_of_error {run : Run} {s t : Session σ} {e : Error} (answered : e ≠ .breakdown)
    (h : Suite.perform client run s = .error e t) :
    run.perform client s = .error e (Session.leftBy (client.shutDown t)) := by
  cases hs : client.shutDown t <;> simp [perform, h, hs]

theorem perform_of_breakdown {run : Run} {s t : Session σ}
    (h : Suite.perform client run s = .error .breakdown t) :
    run.perform client s = .error .breakdown t := by
  simp [perform, h]

/-- A run comes to what its checks come to and prints what they print; then the client is closed. -/
theorem performed_eq (run : Run) (state : σ) :
    (run.performed client state).result =
        Session.resultOf (Suite.perform client run { client := state }) ∧
      (run.performed client state).console =
        (Session.leftBy (Suite.perform client run { client := state })).console ∧
      Closed (Session.leftBy (Suite.perform client run { client := state })).exchanges
        (run.performed client state) := by
  unfold performed
  cases h : Suite.perform client run { client := state } with
  | ok report t =>
    obtain ⟨answer, made, silent⟩ := exists_shutDown client t
    rw [perform_of_ok client h]
    exact ⟨rfl, silent, .inr ⟨nofun, answer, made⟩⟩
  | error e t =>
    by_cases broke : e = .breakdown
    · subst broke
      rw [perform_of_breakdown client h]
      exact ⟨rfl, rfl, .inl ⟨rfl, rfl⟩⟩
    · obtain ⟨answer, made, silent⟩ := exists_shutDown client t
      rw [perform_of_error client broke h]
      exact ⟨rfl, silent, .inr ⟨fun eq => broke (Except.error.inj eq), answer, made⟩⟩

/-- **A run on any client takes one of its courses**, and the client is closed at the end. -/
theorem exists_course (run : Run) (state : σ) :
    ∃ xs es result, run.Course xs es result ∧ (run.performed client state).result = result ∧
      (run.performed client state).console = es ∧ Closed xs (run.performed client state) := by
  obtain ⟨xs, es, result, course, result_eq, exchanges_eq, console_eq⟩ :=
    exists_took_suite client run { client := state }
  obtain ⟨verdict, printed, closed⟩ := performed_eq client run state
  rw [List.nil_append] at exchanges_eq console_eq
  rw [exchanges_eq] at closed
  exact ⟨xs, es, result, course, verdict.trans result_eq, printed.trans console_eq, closed⟩

/-! ## The close is not heard -/

theorem checkAll_of_close (close : EStateM Error σ Unit) (settings : ScenarioSettings)
    (scenarios : List Scenario) :
    Scenario.checkAll { client with close } database settings scenarios =
      Scenario.checkAll client database settings scenarios := by
  induction scenarios with
  | nil => rfl
  | cons scenario rest ih =>
    simp only [Scenario.checkAll, ih]
    rfl

/-- **How closing the client ends makes no difference** to the verdict and to what is printed. -/
theorem performed_of_close (close : EStateM Error σ Unit) (run : Run) (state : σ) :
    (run.performed { client with close } state).result = (run.performed client state).result ∧
      (run.performed { client with close } state).console =
        (run.performed client state).console := by
  have same : Suite.perform { client with close } run = Suite.perform client run := by
    unfold Suite.perform
    cases run.suite with
    | schema scenarios =>
      simp only [checkAll_of_close]
      rfl
    | authorization => rfl
  obtain ⟨verdict, printed, -⟩ := performed_eq client run state
  obtain ⟨verdict', printed', -⟩ := performed_eq { client with close } run state
  rw [same] at verdict' printed'
  exact ⟨verdict'.trans verdict.symm, printed'.trans printed.symm⟩

end Run

end MetastoreProbe
