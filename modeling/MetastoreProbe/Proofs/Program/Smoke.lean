import MetastoreProbe.Proofs.Program.Exits
import MetastoreProbe.Proofs.Run.Verdict

/-!
# Passing the storage scenarios

A smoke test that passes without having looked at anything would be worse than none.
`Program.run_smoke_passes` rules that out: exit code 0 stands for a list of scenarios that is not
empty, and for calls that were made and answered one by one, as `Scenario.Served` spells them out.

The list is read off the arguments (`CommandLine.scenariosIn`), not off the parsed command, so that
no scenario is lost between the two.
-/

namespace MetastoreProbe

/-- The exchanges show that the scenarios were served in their order: the table of each was
provided, and its schema came back as the one column that the table was created with. -/
inductive Scenario.Served (database : String) (settings : ScenarioSettings) :
    List Scenario → List Exchange → Prop
  | nil : Served database settings [] []
  | cons (scenario : Scenario) (outcome : CreateOutcome) {rest : List Scenario}
    {xs : List Exchange} (more : Served database settings rest xs) :
    Served database settings (scenario :: rest)
      (.createTable (scenario.table settings database) (.ok outcome) ::
        .getSchema database scenario.tableName
          (.ok { columns := [{ name := "id", type := "string", comment := "col comment" }] }) ::
        xs)

namespace Scenario.Served

variable {database : String} {settings : ScenarioSettings} {scenarios : List Scenario}
  {xs : List Exchange}

theorem passes (served : Served database settings scenarios xs) : ∀ x ∈ xs, x.Passes := by
  induction served with
  | nil => exact List.forall_mem_nil _
  | cons scenario outcome more ih =>
    exact List.forall_mem_cons.2 ⟨⟨outcome, rfl⟩, List.forall_mem_cons.2 ⟨rfl, ih⟩⟩

theorem call_ne_close (served : Served database settings scenarios xs) :
    ∀ x ∈ xs, x.call ≠ .close := by
  induction served with
  | nil => exact List.forall_mem_nil _
  | cons scenario outcome more ih =>
    exact List.forall_mem_cons.2 ⟨nofun, List.forall_mem_cons.2 ⟨nofun, ih⟩⟩

/-- What reports of passes tell of is that their scenarios were served. -/
theorem of_isPass {reports : List ScenarioReport} (pass : ∀ r ∈ reports, r.IsPass) :
    Served database settings (reports.map (·.scenario))
      (reports.flatMap (ScenarioReport.exchanges database settings)) := by
  induction reports with
  | nil => exact .nil
  | cons report reports ih =>
    obtain ⟨⟨named, expected⟩, others⟩ := List.forall_mem_cons.1 pass
    rw [List.flatMap_cons, ScenarioReport.exchanges, named, expected]
    exact .cons report.scenario report.outcome (ih others)

end Scenario.Served

namespace Run

variable {σ : Type} {client : Client σ} {state : σ} {run : Run} {scenarios : List Scenario}

/-- **A run of the schema suite comes to a report just when it was served**: its database was
provided, and then each of its scenarios was served. -/
theorem exists_report_iff (suite : run.suite = .schema scenarios) :
    (∃ report, (run.performed client state).result = .ok report) ↔
      ∃ provided xs, Scenario.Served run.database run.scenarios scenarios xs ∧
        (run.performed client state).checks =
          .createDatabase run.database (.ok provided) :: xs := by
  obtain ⟨ys, es, result, course, result_eq, -, closed⟩ := run.exists_course client state
  rw [result_eq, course.checks_eq closed]
  constructor
  · rintro ⟨report, passed⟩
    obtain ⟨-, rfl, isPass, provided, -, rfl⟩ := course.matches_of_ok suite passed
    exact ⟨provided, _, .of_isPass isPass, rfl⟩
  · rintro ⟨provided, xs, served, rfl⟩
    have passes : ∀ x ∈ .createDatabase run.database (.ok provided) :: xs, x.Passes :=
      List.forall_mem_cons.2 ⟨⟨provided, rfl⟩, served.passes⟩
    cases h : result with
    | ok report => exact ⟨report, rfl⟩
    | error e => exact absurd passes (course.stopWith_of_error suite h).not_passes

/-- After a report the client is closed. -/
theorem exchanges_of_report {report : Report}
    (passed : (run.performed client state).result = .ok report) :
    ∃ answer, (run.performed client state).exchanges =
      (run.performed client state).checks ++ [.close answer] := by
  obtain ⟨xs, es, result, course, -, -, closed⟩ := run.exists_course client state
  rw [course.checks_eq closed]
  obtain ⟨broke, -⟩ | ⟨-, made⟩ := closed
  · cases passed.symm.trans broke
  · exact made

/-- **It comes to a report just when it was served and the client was closed.** -/
theorem exists_report_iff_closed (suite : run.suite = .schema scenarios) :
    (∃ report, (run.performed client state).result = .ok report) ↔
      ∃ provided xs answer, Scenario.Served run.database run.scenarios scenarios xs ∧
        (run.performed client state).exchanges =
          .createDatabase run.database (.ok provided) :: xs ++ [.close answer] := by
  constructor
  · rintro ⟨report, passed⟩
    obtain ⟨provided, xs, served, checks⟩ := (exists_report_iff suite).1 ⟨report, passed⟩
    obtain ⟨answer, made⟩ := exchanges_of_report passed
    rw [checks] at made
    exact ⟨provided, xs, answer, served, made⟩
  · rintro ⟨provided, xs, answer, served, made⟩
    refine (exists_report_iff suite).2 ⟨provided, xs, served, ?_⟩
    have kept : xs.filter (·.call ≠ .close) = xs :=
      List.filter_eq_self.2 fun x member => by simpa using served.call_ne_close x member
    rw [Execution.checks, made, List.cons_append, List.filter_cons, List.filter_append, kept]
    simp [Exchange.call]

end Run

namespace Program

variable {σ : Type} (network : Network σ) (now : Int32) {files : Files}
  {arguments : List String} {commandLine : CommandLine} {wording : Toml.Wording}
  {settings : Settings}

/-- With settings that can be had, a command that checks a metastore is carried out. -/
theorem run_eq_carryOut {run : Run} (accepted : CommandLine.parse arguments = .ok commandLine)
    (loaded : Program.settings files commandLine wording = .ok settings)
    (asked : commandLine.command.run settings = some run) :
    Program.run network now files arguments wording = carryOut network now run := by
  unfold Program.run
  simp only [accepted, loaded, perform, asked]

/-- **A plain run of the schema suite exits with 0 just when it was served**, and then the client
was closed. -/
theorem carryOut_passes_iff {run : Run} {scenarios : List Scenario}
    (suite : run.suite = .schema scenarios) (plain : run.target.kerberos = none) :
    ((carryOut network now run).exit.code = 0 ↔
        (∃ link, network.dial run.target = .ok link) ∧
          ∃ provided xs answer, Scenario.Served run.database run.scenarios scenarios xs ∧
            (carryOut network now run).exchanges =
              .createDatabase run.database (.ok provided) :: xs ++ [.close answer]) ∧
      ((carryOut network now run).exit.code = 0 ↔
        (∃ link, network.dial run.target = .ok link) ∧
          ∃ provided xs, Scenario.Served run.database run.scenarios scenarios xs ∧
            (carryOut network now run).exchanges.filter (·.call ≠ .close) =
              .createDatabase run.database (.ok provided) :: xs) := by
  have executed := run.executed network now
  rw [Exit.code_eq_zero_iff]
  unfold carryOut
  dsimp only
  generalize run.execute network now = e at executed ⊢
  cases executed with
  | refused asked => cases asked.symm.trans plain
  | unreached _ dial =>
    rw [dial]
    constructor <;> exact iff_of_false nofun fun ⟨⟨_, dialled⟩, _⟩ => nomatch dialled
  | @dialled link _ dial =>
    rw [dial, exitOf_eq_success_iff]
    exact ⟨(Run.exists_report_iff_closed suite).trans (and_iff_right ⟨link, rfl⟩).symm,
      (Run.exists_report_iff suite).trans (and_iff_right ⟨link, rfl⟩).symm⟩

/-- Without `--kerberos` the scenarios of a smoke test are those that its arguments ask for, or the
default ones. -/
theorem smoke_run_eq (settings : Settings) {access : Access} {parsed : List Scenario}
    (accepted : CommandLine.parse arguments = .ok commandLine)
    (command : commandLine.command = .smoke access parsed) (plain : "--kerberos" ∉ arguments) :
    commandLine.command.run settings =
      some
        { target := access.target settings
          database := access.database.getD "test_metastore"
          suite :=
            .schema (if CommandLine.scenariosIn arguments = [] then [.local, .s3]
              else CommandLine.scenariosIn arguments)
          scenarios := settings.scenarios } := by
  obtain ⟨rfl, kerberos⟩ := (CommandLine.asked_of_parse accepted).1 access parsed command
  rw [decide_eq_false plain] at kerberos
  simp only [command, Command.run, kerberos, Scenario.defaults, List.isEmpty_iff,
    Bool.false_eq_true, if_false, defaultSchemaDatabase]

/-- **A smoke test does not pass for nothing.**  Without `--kerberos` the exit code is 0 just when
the target could be dialled, the database was provided, and the scenarios that the arguments ask
for, or the default ones, were served; in either case there are some.  The client is closed then,
but nothing depends on that.  With `--kerberos` no command that checks a metastore gets 0. -/
theorem run_smoke_passes (files : Files) (wording : Toml.Wording)
    (accepted : CommandLine.parse arguments = .ok commandLine) :
    let outcome := Program.run network now files arguments wording
    let requested := CommandLine.scenariosIn arguments
    let scenarios := if requested = [] then [.local, .s3] else requested
    (∀ access parsed settings, commandLine.command = .smoke access parsed →
      "--kerberos" ∉ arguments → Program.settings files commandLine wording = .ok settings →
        scenarios ≠ [] ∧
          (outcome.exit.code = 0 ↔
            (∃ link, network.dial (access.target settings) = .ok link) ∧
              ∃ provided xs answer,
                Scenario.Served (access.database.getD "test_metastore") settings.scenarios
                    scenarios xs ∧
                  outcome.exchanges =
                    .createDatabase (access.database.getD "test_metastore") (.ok provided) ::
                      xs ++ [.close answer]) ∧
          (outcome.exit.code = 0 ↔
            (∃ link, network.dial (access.target settings) = .ok link) ∧
              ∃ provided xs,
                Scenario.Served (access.database.getD "test_metastore") settings.scenarios
                    scenarios xs ∧
                  outcome.exchanges.filter (·.call ≠ .close) =
                    .createDatabase (access.database.getD "test_metastore") (.ok provided) ::
                      xs)) ∧
      (commandLine.command ≠ .validate → "--kerberos" ∈ arguments → outcome.exit.code ≠ 0) := by
  intro outcome requested scenarios
  constructor
  · intro access parsed settings command plain loaded
    have nonempty : scenarios ≠ [] := by
      by_cases silent : requested = []
      · simp [scenarios, silent]
      · simp [scenarios, silent]
    have asked := smoke_run_eq settings accepted command plain
    have kerberos := Command.isSome_kerberos accepted asked
    rw [decide_eq_false plain, Option.isSome_eq_false_iff, Option.isNone_iff_eq_none] at kerberos
    have carried : outcome = carryOut network now _ :=
      run_eq_carryOut network now accepted loaded asked
    rw [carried]
    exact ⟨nonempty, carryOut_passes_iff network now rfl kerberos⟩
  · intro checks asks
    have misuse : IsMisuse files arguments wording := by
      unfold IsMisuse
      rw [accepted]
      exact .inr ⟨checks, asks⟩
    have exit : outcome.exit = .misuse :=
      (course_run network now files arguments wording).misuse_iff.2 misuse
    rw [exit]
    decide

/-- Two scenarios are asked for in an order of their own, and both are served. -/
theorem run_smoke_passes_of_two_scenarios :
    let network : Network Unit :=
      { link :=
          { createDatabase := fun _ => pure (.value ())
            createTable := fun _ => pure (.value ())
            getSchema := fun _ => pure (.value [⟨some "id", some "string", some "col comment"⟩]) }
        dial := fun _ => .ok ()
        dialStream := fun _ => .error "no" }
    let files : Files := fun _ => .error .notFound
    let arguments := ["smoke", "-m", "h", "--scenario", "hdfs,s3"]
    let outcome := run network 0 files arguments
    CommandLine.parse arguments =
        .ok { command := .smoke { place := .host "h" } [.hdfs, .s3] } ∧
      outcome.exit.code = 0 ∧
      (∃ provided xs answer, Scenario.Served "test_metastore" {} [.hdfs, .s3] xs ∧
        outcome.exchanges =
          .createDatabase "test_metastore" (.ok provided) :: xs ++ [.close answer]) ∧
      (run network 0 files ["smoke", "-m", "h", "--kerberos"]).exit.code ≠ 0 := by
  intro network files arguments outcome
  have accepted : CommandLine.parse arguments =
      .ok { command := .smoke { place := .host "h" } [.hdfs, .s3] } := rfl
  have secured : CommandLine.parse ["smoke", "-m", "h", "--kerberos"] =
      .ok { command := .smoke { place := .host "h", kerberos := true } [] } := rfl
  have passed : outcome.exit.code = 0 := by decide +kernel
  obtain ⟨-, passes, -⟩ :=
    (run_smoke_passes network 0 files .brief accepted).1 _ _ {} rfl (by decide) rfl
  obtain ⟨-, provided, xs, answer, served, made⟩ := passes.1 passed
  refine ⟨accepted, passed, ⟨provided, xs, answer, served, made⟩, ?_⟩
  exact (run_smoke_passes network 0 files .brief secured).2 nofun (by decide)

end Program

end MetastoreProbe
