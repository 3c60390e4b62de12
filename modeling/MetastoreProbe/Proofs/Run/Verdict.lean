import Mathlib.Data.List.Infix
import MetastoreProbe.Proofs.Run.Course

/-!
# Calls and verdicts of a run

`Run.plan` lists the calls of a run that is answered as hoped, and `Exchange.Passes` says which
answers those are.  `Run.calls_prefix_plan` is the law of the calls: a run works off its plan, stops
behind the first answer that does not pass, and closes the client.  `Run.verdict_of_answers` is the
law of the verdict: a run of the schema suite passes just when every answer does, and its report,
its error and its console lines can be read off the answers.
-/

namespace MetastoreProbe

open Console (Entry)

/-! ## Plans -/

/-- The calls that check a scenario. -/
def Scenario.calls (database : String) (settings : ScenarioSettings) (scenario : Scenario) :
    List Call :=
  [.createTable
      { database
        name := scenario.tableName
        location := scenario.location settings database
        columns := [Column.id]
        serializationLib := Table.parquetSerDe
        inputFormat := Table.parquetInput
        outputFormat := Table.parquetOutput
        compressed := settings.compressed
        kind := if settings.externalTables then .external else .managed },
    .getSchema database scenario.tableName]

/-- The table that is asked for is the one of the scenario. -/
theorem Scenario.calls_eq (database : String) (settings : ScenarioSettings) (scenario : Scenario) :
    scenario.calls database settings =
      [.createTable (scenario.table settings database),
        .getSchema database scenario.tableName] := by
  simp only [calls, table, Table.smoke]

/-- The calls of a run that is answered as hoped, closing the client apart. -/
def Run.plan (run : Run) : List Call :=
  match run.suite with
  | .schema scenarios =>
    .createDatabase run.database ::
      scenarios.flatMap (Scenario.calls run.database run.scenarios)
  | .authorization => [.createDatabase run.database]

/-- The answer of an exchange lets the run go on: it is no error, and a schema is that of the
tables which runs create. -/
def Exchange.Passes : Exchange → Prop
  | .createDatabase _ answer => ∃ outcome, answer = .ok outcome
  | .createTable _ answer => ∃ outcome, answer = .ok outcome
  | .getSchema _ _ answer => answer = .ok Schema.oneColumn
  | .close _ => True

/-- The exchanges of an execution, closing the client apart. -/
def Execution.checks (e : Execution) : List Exchange :=
  e.exchanges.filter (·.call ≠ .close)

/-- An exchange does not pass, and this is the error that the run ends with on its account. -/
inductive Exchange.FailsWith : Exchange → Error → Prop
  | database (name : String) (e : Error) : FailsWith (.createDatabase name (.error e)) e
  | table (table : Table) (e : Error) : FailsWith (.createTable table (.error e)) e
  | schema (database table : String) (e : Error) :
    FailsWith (.getSchema database table (.error e)) e
  | difference (database : String) (scenario : Scenario) (schema : Schema)
    (different : schema ≠ Schema.oneColumn) :
    FailsWith (.getSchema database scenario.tableName (.ok schema))
      (.schemaMismatch scenario.label schema.text Schema.oneColumn.text)

theorem Exchange.FailsWith.not_passes {x : Exchange} {e : Error} (h : x.FailsWith e) :
    ¬ x.Passes := by
  cases h with
  | database | table => rintro ⟨_, ⟨⟩⟩
  | schema => rintro ⟨⟩
  | difference _ _ _ different => exact fun passes => different (Except.ok.inj passes)

/-- The client broke down in the exchange.  What becomes of closing it is not heard. -/
def Exchange.BreaksDown : Exchange → Prop
  | .createDatabase _ answer => answer = .error .breakdown
  | .createTable _ answer => answer = .error .breakdown
  | .getSchema _ _ answer => answer = .error .breakdown
  | .close _ => False

theorem Exchange.Passes.not_breaksDown {x : Exchange} (h : x.Passes) : ¬ x.BreaksDown := by
  cases x with
  | createDatabase | createTable =>
    obtain ⟨outcome, rfl⟩ := h
    rintro ⟨⟩
  | getSchema =>
    cases h
    rintro ⟨⟩
  | close => exact id

theorem Exchange.FailsWith.breaksDown_iff {x : Exchange} {e : Error} (h : x.FailsWith e) :
    x.BreaksDown ↔ e = .breakdown := by
  cases h with
  | database | table | schema => simp only [BreaksDown, Except.error.injEq]
  | difference => exact iff_of_false nofun nofun

/-- Exchanges of which all but the last pass, and the last ends the run with the error. -/
def StopWith (xs : List Exchange) (e : Error) : Prop :=
  ∃ before last, xs = before ++ [last] ∧ (∀ x ∈ before, x.Passes) ∧ last.FailsWith e

/-- The exchanges that the report of a scenario tells of. -/
def ScenarioReport.exchanges (database : String) (settings : ScenarioSettings)
    (report : ScenarioReport) : List Exchange :=
  [.createTable (report.scenario.table settings database) (.ok report.outcome),
    .getSchema database report.table (.ok report.schema)]

/-- The report of a scenario names its table and has the expected schema. -/
def ScenarioReport.IsPass (report : ScenarioReport) : Prop :=
  report.table = report.scenario.tableName ∧ report.schema = Schema.oneColumn

/-- A report of the schema suite says what the exchanges of the run say: the database was provided,
and each scenario passed, in the order in which the scenarios were asked for. -/
structure Report.Matches (report : Report) (run : Run) (scenarios : List Scenario)
    (xs : List Exchange) : Prop where
  authorization_eq : report.authorization = none
  scenarios_eq : report.scenarios.map (·.scenario) = scenarios
  isPass : ∀ r ∈ report.scenarios, r.IsPass
  exchanges_eq : ∃ outcome, report.database = some outcome ∧
    xs = .createDatabase run.database (.ok outcome) ::
      report.scenarios.flatMap (ScenarioReport.exchanges run.database run.scenarios)

/-- The line that tells of a call that a table existed already. -/
def Exchange.existedLine? : Exchange → Option String
  | .createTable table (.ok .alreadyExisted) => some s!"[INFO] Table {table.name} already existed"
  | _ => none

namespace StopWith

variable {xs : List Exchange} {e : Error}

theorem single {x : Exchange} (fails : x.FailsWith e) : StopWith [x] e :=
  ⟨[], x, rfl, List.forall_mem_nil _, fails⟩

theorem cons {x : Exchange} (pass : x.Passes) (stop : StopWith xs e) : StopWith (x :: xs) e := by
  obtain ⟨before, last, rfl, passes, fails⟩ := stop
  exact ⟨x :: before, last, rfl, List.forall_mem_cons.2 ⟨pass, passes⟩, fails⟩

theorem append_left {ys : List Exchange} (passes : ∀ y ∈ ys, y.Passes) (stop : StopWith xs e) :
    StopWith (ys ++ xs) e := by
  induction ys with
  | nil => exact stop
  | cons y ys ih =>
    obtain ⟨pass, passes⟩ := List.forall_mem_cons.1 passes
    exact (ih passes).cons pass

theorem passes_of_mem_dropLast (stop : StopWith xs e) : ∀ x ∈ xs.dropLast, x.Passes := by
  obtain ⟨before, last, rfl, passes, -⟩ := stop
  rwa [List.dropLast_concat]

theorem not_passes (stop : StopWith xs e) : ¬ ∀ x ∈ xs, x.Passes := by
  obtain ⟨before, last, rfl, -, fails⟩ := stop
  exact fun passes => fails.not_passes (passes last (by simp))

theorem breaksDown_iff (stop : StopWith xs e) :
    (∃ x ∈ xs, x.BreaksDown) ↔ e = .breakdown := by
  obtain ⟨before, last, rfl, passes, fails⟩ := stop
  rw [← fails.breaksDown_iff]
  constructor
  · rintro ⟨x, member, broke⟩
    rcases List.mem_append.1 member with earlier | latest
    · exact absurd broke (passes x earlier).not_breaksDown
    · rwa [← List.mem_singleton.1 latest]
  · exact fun broke => ⟨last, by simp, broke⟩

end StopWith

/-- The notice of a table of a run is one line. -/
theorem Exchange.lines_notice? {x : Exchange}
    (named : ∀ table answer, x = .createTable table answer →
      ∃ scenario : Scenario, table.name = scenario.tableName) :
    x.notice?.toList.flatMap Entry.lines = x.existedLine?.toList := by
  match x with
  | .createTable table (.ok .alreadyExisted) =>
    obtain ⟨scenario, name_eq⟩ := named table _ rfl
    simp only [notice?, existedLine?, name_eq]
    cases scenario <;> rfl
  | .createTable _ (.ok .created) | .createTable _ (.error _) | .createDatabase _ _
  | .getSchema _ _ _ | .close _ => rfl

/-! ## The course of one scenario -/

namespace ScenarioReport

variable {database : String} {settings : ScenarioSettings} {report : ScenarioReport}

theorem calls_exchanges (pass : report.IsPass) :
    (report.exchanges database settings).map Exchange.call =
      report.scenario.calls database settings := by
  obtain ⟨named, -⟩ := pass
  rw [Scenario.calls_eq, exchanges, named]
  rfl

theorem passes_of_mem_exchanges (pass : report.IsPass) {x : Exchange}
    (member : x ∈ report.exchanges database settings) : x.Passes := by
  obtain ⟨-, expected⟩ := pass
  simp only [exchanges, List.mem_cons, List.not_mem_nil, or_false] at member
  rcases member with rfl | rfl
  · exact ⟨_, rfl⟩
  · exact congrArg Except.ok expected

end ScenarioReport

namespace Scenario

variable {database : String} {settings : ScenarioSettings} {xs : List Exchange}

theorem Course.calls_prefix {scenario : Scenario} {result : Except Error ScenarioReport}
    (course : scenario.Course database settings xs result) :
    xs.map Exchange.call <+: scenario.calls database settings := by
  rw [calls_eq]
  cases course with
  | refused e => exact ⟨[.getSchema database scenario.tableName], rfl⟩
  | withheld | differed | passed => exact ⟨[], rfl⟩

theorem Course.of_ok {scenario : Scenario} {report : ScenarioReport}
    (course : scenario.Course database settings xs (.ok report)) :
    xs = report.exchanges database settings ∧ report.scenario = scenario ∧ report.IsPass := by
  cases course with
  | passed outcome => exact ⟨rfl, rfl, rfl, rfl⟩

theorem Course.stopWith {scenario : Scenario} {e : Error}
    (course : scenario.Course database settings xs (.error e)) : StopWith xs e := by
  cases course with
  | refused => exact .single (.table _ _)
  | withheld outcome =>
    have last := StopWith.single (.schema database scenario.tableName e)
    exact last.cons ⟨outcome, rfl⟩
  | differed outcome schema different =>
    have last := StopWith.single (.difference database scenario schema different)
    exact last.cons ⟨outcome, rfl⟩

/-! ## The course of a list of scenarios -/

theorem CourseAll.calls_prefix {scenarios : List Scenario}
    {result : Except Error (List ScenarioReport)}
    (course : CourseAll database settings scenarios xs result) :
    xs.map Exchange.call <+: scenarios.flatMap (Scenario.calls database settings) := by
  induction course with
  | nil => exact ⟨[], rfl⟩
  | stopped rest course => exact course.calls_prefix.trans (List.prefix_append _ _)
  | passed course more ih =>
    obtain ⟨rfl, rfl, pass⟩ := course.of_ok
    rw [List.map_append, ScenarioReport.calls_exchanges pass, List.flatMap_cons]
    exact (List.prefix_append_right_inj _).2 ih

theorem CourseAll.of_ok {scenarios : List Scenario} {reports : List ScenarioReport}
    {result : Except Error (List ScenarioReport)}
    (course : CourseAll database settings scenarios xs result) (passed : result = .ok reports) :
    xs = reports.flatMap (ScenarioReport.exchanges database settings) ∧
      reports.map (·.scenario) = scenarios ∧ ∀ report ∈ reports, report.IsPass := by
  induction course generalizing reports with
  | nil => cases passed; exact ⟨rfl, rfl, nofun⟩
  | stopped => cases passed
  | @passed _ _ _ _ report result course more ih =>
    obtain ⟨rfl, rfl, pass⟩ := course.of_ok
    match result with
    | .error e => cases passed
    | .ok rest =>
      cases passed
      obtain ⟨rfl, rfl, passes⟩ := ih rfl
      exact ⟨rfl, rfl, List.forall_mem_cons.2 ⟨pass, passes⟩⟩

theorem CourseAll.stopWith {scenarios : List Scenario} {e : Error}
    {result : Except Error (List ScenarioReport)}
    (course : CourseAll database settings scenarios xs result) (failed : result = .error e) :
    StopWith xs e := by
  induction course with
  | nil => cases failed
  | stopped rest course => cases failed; exact course.stopWith
  | @passed _ _ _ _ report result course more ih =>
    obtain ⟨rfl, -, pass⟩ := course.of_ok
    match result with
    | .ok rest => cases failed
    | .error e' =>
      cases failed
      exact (ih rfl).append_left fun x member => ScenarioReport.passes_of_mem_exchanges pass member

end Scenario

/-! ## The course of a run -/

namespace Report.Matches

variable {report : Report} {run : Run} {scenarios : List Scenario} {xs : List Exchange}

theorem passes (h : report.Matches run scenarios xs) : ∀ x ∈ xs, x.Passes := by
  obtain ⟨outcome, -, rfl⟩ := h.exchanges_eq
  refine List.forall_mem_cons.2 ⟨⟨outcome, rfl⟩, fun x member => ?_⟩
  obtain ⟨r, reported, member⟩ := List.mem_flatMap.1 member
  exact ScenarioReport.passes_of_mem_exchanges (h.isPass r reported) member

theorem map_call (h : report.Matches run scenarios xs) (suite : run.suite = .schema scenarios) :
    xs.map Exchange.call = run.plan := by
  obtain ⟨outcome, -, rfl⟩ := h.exchanges_eq
  have calls : ∀ r ∈ report.scenarios,
      (r.exchanges run.database run.scenarios).map Exchange.call =
        r.scenario.calls run.database run.scenarios :=
    fun r reported => ScenarioReport.calls_exchanges (h.isPass r reported)
  simp only [Run.plan, suite, ← h.scenarios_eq, List.map_cons, List.map_flatMap, List.flatMap_map,
    List.flatMap_congr calls]
  rfl

end Report.Matches

namespace Run

variable {run : Run} {xs : List Exchange} {es : List Entry} {result : Except Error Report}

theorem Course.calls_prefix (course : run.Course xs es result) :
    xs.map Exchange.call <+: run.plan := by
  cases course with
  | unprovided suite e =>
    simp only [plan, suite]
    exact ⟨_, rfl⟩
  | checked suite outcome course =>
    simp only [plan, suite]
    exact (List.prefix_cons_inj _).2 course.calls_prefix
  | allowed suite | denied suite | brokeDown suite =>
    simp only [plan, suite]
    exact ⟨[], rfl⟩

theorem Course.matches_of_ok {scenarios : List Scenario} (suite : run.suite = .schema scenarios)
    (course : run.Course xs es result) {report : Report} (passed : result = .ok report) :
    report.Matches run scenarios xs := by
  cases course with
  | unprovided => cases passed
  | @checked _ suite' outcome _ result course =>
    cases suite.symm.trans suite'
    match result with
    | .error e => cases passed
    | .ok reports =>
      cases passed
      obtain ⟨rfl, scenarios_eq, isPass⟩ := course.of_ok rfl
      exact ⟨rfl, scenarios_eq, isPass, outcome, rfl, rfl⟩
  | allowed suite' | denied suite' | brokeDown suite' => cases suite.symm.trans suite'

theorem Course.stopWith_of_error {scenarios : List Scenario} (suite : run.suite = .schema scenarios)
    (course : run.Course xs es result) {e : Error} (failed : result = .error e) :
    StopWith xs e := by
  cases course with
  | unprovided =>
    cases failed
    exact .single (.database _ _)
  | @checked _ suite' outcome _ result course =>
    match result with
    | .ok reports => cases failed
    | .error e' =>
      cases failed
      exact (course.stopWith rfl).cons ⟨outcome, rfl⟩
  | allowed suite' | denied suite' | brokeDown suite' => cases suite.symm.trans suite'

/-- A run stops behind the first answer that does not pass, and nowhere else. -/
theorem Course.passes (course : run.Course xs es result) :
    (∀ x ∈ xs.dropLast, x.Passes) ∧
      ((∀ x ∈ xs, x.Passes) → xs.map Exchange.call = run.plan) := by
  cases suite : run.suite with
  | schema scenarios =>
    cases h : result with
    | ok report =>
      have told := course.matches_of_ok suite h
      exact ⟨fun x member => told.passes x (List.mem_of_mem_dropLast member),
        fun _ => told.map_call suite⟩
    | error e =>
      have stop := course.stopWith_of_error suite h
      exact ⟨stop.passes_of_mem_dropLast, fun passes => absurd passes stop.not_passes⟩
  | authorization =>
    -- The one planned call is made, whatever comes of it.
    cases course with
    | unprovided suite' | checked suite' => cases suite.symm.trans suite'
    | allowed | denied | brokeDown =>
      constructor
      · intro x member
        cases member
      · intro _
        simp only [plan, suite]
        rfl

/-- A run comes to a breakdown just when the client answered with one. -/
theorem Course.breakdown_iff (course : run.Course xs es result) :
    result = .error .breakdown ↔ ∃ x ∈ xs, x.BreaksDown := by
  cases suite : run.suite with
  | schema scenarios =>
    cases h : result with
    | ok report =>
      have passes := (course.matches_of_ok suite h).passes
      exact iff_of_false nofun fun ⟨x, member, broke⟩ => (passes x member).not_breaksDown broke
    | error e => rw [(course.stopWith_of_error suite h).breaksDown_iff, Except.error.injEq]
  | authorization =>
    cases course with
    | unprovided suite' | checked suite' => cases suite.symm.trans suite'
    | allowed | brokeDown => simp [Exchange.BreaksDown]
    | denied _ e answered => simp [Exchange.BreaksDown, answered]

theorem close_not_mem_plan (run : Run) : Call.close ∉ run.plan := by
  unfold plan
  cases run.suite with
  | authorization => simp
  | schema scenarios => simp [Scenario.calls]

theorem Course.call_ne_close (course : run.Course xs es result) :
    ∀ x ∈ xs, x.call ≠ .close := by
  intro x member closes
  have planned : x.call ∈ run.plan := course.calls_prefix.subset (List.mem_map_of_mem member)
  rw [closes] at planned
  exact close_not_mem_plan run planned

/-- Closing the client is the only exchange that the checks did not make. -/
theorem Course.checks_eq {e : Execution} (course : run.Course xs es result) (closed : Closed xs e) :
    e.checks = xs := by
  have kept : xs.filter (·.call ≠ .close) = xs :=
    List.filter_eq_self.2 fun x member => by simpa using course.call_ne_close x member
  unfold Execution.checks
  rcases closed with ⟨-, made⟩ | ⟨-, answer, made⟩
  · rw [made, kept]
  · rw [made, List.filter_append, kept]
    simp [Exchange.call]

/-! ## What is printed -/

theorem Course.createTable_name {table : Table} {answer : Except Error CreateOutcome}
    (course : run.Course xs es result) (made : .createTable table answer ∈ xs) :
    ∃ scenario : Scenario, table.name = scenario.tableName := by
  have planned : Call.createTable table ∈ run.plan :=
    course.calls_prefix.subset (List.mem_map_of_mem made)
  unfold plan at planned
  cases suite : run.suite with
  | authorization => simp [suite] at planned
  | schema scenarios =>
    simp only [suite, List.mem_cons, reduceCtorEq, List.mem_flatMap, Scenario.calls,
      Call.createTable.injEq, List.not_mem_nil, or_false, false_or] at planned
    obtain ⟨scenario, -, rfl⟩ := planned
    exact ⟨scenario, rfl⟩

/-- In the schema suite only the notices are printed. -/
theorem Course.notices_eq {scenarios : List Scenario} (suite : run.suite = .schema scenarios)
    (course : run.Course xs es result) : es = xs.filterMap Exchange.notice? := by
  cases course with
  | unprovided | checked => rfl
  | allowed suite' | denied suite' | brokeDown suite' => cases suite.symm.trans suite'

/-- What a run of the schema suite prints is a line for each table that existed. -/
theorem Course.lines_eq {scenarios : List Scenario} (suite : run.suite = .schema scenarios)
    (course : run.Course xs es result) :
    Console.lines es = xs.filterMap Exchange.existedLine? := by
  have named : ∀ x ∈ xs, x.notice?.toList.flatMap Entry.lines = x.existedLine?.toList := by
    intro x member
    refine Exchange.lines_notice? fun table answer eq => ?_
    subst eq
    exact course.createTable_name member
  rw [course.notices_eq suite, Console.lines, List.filterMap_eq_flatMap_toList, List.flatMap_assoc,
    List.filterMap_eq_flatMap_toList, List.flatMap_congr named]

/-! ## Calls -/

/-- **A run works off its plan.**  Whatever the client answers, the calls are those of the plan in
their order, up to and with the first that is answered with an error or with another schema than
the expected one; if there is none, they are the whole plan.  Then the client is closed, once, and
that is the last call.  Only a client that broke down in a call is not closed; the run comes to a
breakdown then, and with no other client. -/
theorem calls_prefix_plan {σ : Type} (client : Client σ) (run : Run) (state : σ) :
    let e := run.performed client state
    e.checks.map Exchange.call <+: run.plan ∧
      (∀ x ∈ e.checks.dropLast, x.Passes) ∧
      ((∀ x ∈ e.checks, x.Passes) → e.checks.map Exchange.call = run.plan) ∧
      ((∀ x ∈ e.checks, ¬ x.BreaksDown) → ∃ answer, e.exchanges = e.checks ++ [.close answer]) ∧
      ((∃ x ∈ e.checks, x.BreaksDown) → e.exchanges = e.checks) ∧
      (e.result = .error .breakdown ↔ ∃ x ∈ e.checks, x.BreaksDown) := by
  intro e
  obtain ⟨xs, es, result, course, result_eq, -, closed⟩ := exists_course client run state
  have checks_eq : e.checks = xs := course.checks_eq closed
  have verdict : e.result = result := result_eq
  have broke : e.result = .error .breakdown ↔ ∃ x ∈ xs, x.BreaksDown :=
    verdict ▸ course.breakdown_iff
  rw [checks_eq]
  obtain ⟨passes, planned⟩ := course.passes
  refine ⟨course.calls_prefix, passes, planned, fun answers => ?_, fun breaks => ?_, broke⟩
  · obtain ⟨broken, -⟩ | ⟨-, made⟩ := closed
    · obtain ⟨x, member, breaks⟩ := broke.1 broken
      exact absurd breaks (answers x member)
    · exact made
  · obtain ⟨-, made⟩ | ⟨stands, -⟩ := closed
    · exact made
    · exact absurd (broke.2 breaks) stands

/-! ## Verdicts -/

/-- **The verdict of the schema suite can be read off the answers.**  A run passes just when all of
its plan was called and every answer passes, and its report then matches the answers.  Otherwise
the first answer that does not pass gives the error.  What is printed is a line for each table that
existed, and how the client is closed makes no difference. -/
theorem verdict_of_answers {σ : Type} (client : Client σ) (run : Run) (state : σ)
    (scenarios : List Scenario) (close : EStateM Error σ Unit) :
    let run := { run with suite := .schema scenarios }
    let e := run.performed client state
    ((∃ report, e.result = .ok report) ↔
        e.checks.map Exchange.call = run.plan ∧ ∀ x ∈ e.checks, x.Passes) ∧
      (∀ report, e.result = .ok report → report.Matches run scenarios e.checks) ∧
      (∀ error, e.result = .error error → StopWith e.checks error) ∧
      Console.lines e.console = e.checks.filterMap Exchange.existedLine? ∧
      (run.performed { client with close } state).result = e.result ∧
      (run.performed { client with close } state).console = e.console := by
  intro run e
  obtain ⟨xs, es, result, course, result_eq, console_eq, closed⟩ := exists_course client run state
  have checks_eq : e.checks = xs := course.checks_eq closed
  have verdict : e.result = result := result_eq
  rw [← checks_eq] at course
  have told : ∀ report, e.result = .ok report → report.Matches run scenarios e.checks :=
    fun report passed => course.matches_of_ok rfl (verdict.symm.trans passed)
  have stopped : ∀ error, e.result = .error error → StopWith e.checks error :=
    fun error failed => course.stopWith_of_error rfl (verdict.symm.trans failed)
  refine ⟨⟨?_, ?_⟩, told, stopped, ?_, performed_of_close client close run state⟩
  · rintro ⟨report, passed⟩
    exact ⟨(told report passed).map_call rfl, (told report passed).passes⟩
  · rintro ⟨-, passes⟩
    cases h : e.result with
    | ok report => exact ⟨report, rfl⟩
    | error error => exact absurd passes (stopped error h).not_passes
  · have printed : e.console = es := console_eq
    rw [printed]
    exact course.lines_eq rfl

end Run

end MetastoreProbe
