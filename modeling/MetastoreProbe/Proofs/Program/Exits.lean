import MetastoreProbe.Proofs.CommandLine.Asked
import MetastoreProbe.Proofs.Program.Course
import MetastoreProbe.Proofs.Run.Failures
import MetastoreProbe.Proofs.Run.Verdict

/-!
# Exits

The exit with code 2 is a promise to whoever reads it: the mistake is in the call of the program,
and nothing was contacted.  `Program.IsMisuse` lists the mistakes, and `Program.run_misuse` says
that the program exits so for these and for nothing else, and then without dialling.

Whoever reads the exit code is also told if the program gave up: the exit after a breakdown is one
of its own, and only a client that reads bytes can break down.
-/

namespace MetastoreProbe

variable {σ : Type}

/-! ## Runs that come to a report -/

namespace Run

variable {run : Run} {scenarios : List Scenario} {report : Report}

/-- In a run of the schema suite that comes to a report, every answer passes. -/
theorem passes_of_report {client : Client σ} {state : σ} (suite : run.suite = .schema scenarios)
    (passed : (run.performed client state).result = .ok report) :
    ∀ x ∈ (run.performed client state).exchanges, x.Passes := by
  obtain ⟨xs, es, result, course, result_eq, -, closed⟩ := run.exists_course client state
  have told := course.matches_of_ok suite (result_eq.symm.trans passed)
  obtain ⟨broke, -⟩ | ⟨-, answer, made⟩ := closed
  · rw [passed] at broke
    cases broke
  · rw [made]
    exact List.forall_mem_append.2 ⟨told.passes, List.forall_mem_singleton.2 trivial⟩

theorem Executed.passes {network : Network σ} {now : Int32} {e : Execution}
    (executed : run.Executed network now e) (suite : run.suite = .schema scenarios)
    (passed : e.result = .ok report) : ∀ x ∈ e.exchanges, x.Passes := by
  cases executed with
  | refused | unreached => cases passed
  | dialled => exact passes_of_report suite passed

/-- A run is misused just when it asks for Kerberos, and then nothing is dialled. -/
theorem Executed.misuse {network : Network σ} {now : Int32} {e : Execution}
    (executed : run.Executed network now e) :
    (Program.exitOf e.result = .misuse ↔ run.target.kerberos.isSome) ∧
      (Program.exitOf e.result = .misuse → e.dialled = [] ∧ e.exchanges = []) := by
  cases kerberos : run.target.kerberos with
  | some asked =>
    cases executed with
    | refused => exact ⟨iff_of_true rfl rfl, fun _ => ⟨rfl, rfl⟩⟩
    | unreached plain | dialled plain => cases kerberos.symm.trans plain
  | none =>
    obtain ⟨-, fails⟩ := executed.of_plain kerberos
    have other : Program.exitOf e.result ≠ .misuse := by
      cases result : e.result with
      | ok report => exact nofun
      | error error =>
        intro misused
        exact absurd ((fails error result).symm.trans misused) (by decide)
    exact ⟨iff_of_false other nofun, fun misused => absurd misused other⟩

end Run

/-! ## Settings and commands -/

/-- A command asks for Kerberos just when one of the arguments is the option for it. -/
theorem Command.isSome_kerberos {arguments : List String} {commandLine : CommandLine}
    (accepted : CommandLine.parse arguments = .ok commandLine) {settings : Settings} {run : Run}
    (asked : commandLine.command.run settings = some run) :
    run.target.kerberos.isSome = decide ("--kerberos" ∈ arguments) := by
  have isSome (access : Access) : (access.target settings).kerberos.isSome = access.kerberos := by
    unfold Access.target
    cases access.kerberos <;> rfl
  obtain ⟨smoke, authz⟩ := CommandLine.asked_of_parse accepted
  cases command : commandLine.command with
  | smoke access requested =>
    rw [command] at asked
    cases asked
    exact (isSome access).trans (smoke access requested command).2
  | authz access =>
    rw [command] at asked
    cases asked
    exact (isSome access).trans (authz access command)
  | validate =>
    rw [command] at asked
    cases asked

/-! ## The program -/

namespace Program

variable (network : Network σ) (now : Int32)

/-! ### Misuse -/

/-- The call of the program has a mistake in it: the arguments are at fault, or the settings file
that they name cannot be loaded or is not valid, or a command that checks a metastore is to use
Kerberos. -/
def IsMisuse (files : Files) (arguments : List String) (wording : Toml.Wording) : Prop :=
  match CommandLine.parse arguments with
  | .error rejection => rejection.isFault
  | .ok commandLine =>
    (∃ path fault, commandLine.config = some path ∧
        Settings.load files path wording = .error fault) ∨
      (commandLine.command ≠ .validate ∧ "--kerberos" ∈ arguments)

/-- The settings of a command line are wrong just when the file that it names is. -/
theorem settings_eq_error_iff {files : Files} {commandLine : CommandLine}
    {wording : Toml.Wording} :
    (∃ fault, Program.settings files commandLine wording = .error fault) ↔
      ∃ path fault, commandLine.config = some path ∧
        Settings.load files path wording = .error fault := by
  unfold Program.settings
  cases commandLine.config with
  | some path => simp
  | none => simp

/-- With settings that can be had, only the use of Kerberos is a mistake. -/
theorem isMisuse_iff_of_settings {files : Files} {arguments : List String}
    {commandLine : CommandLine} {wording : Toml.Wording} {settings : Settings}
    (accepted : CommandLine.parse arguments = .ok commandLine)
    (loaded : Program.settings files commandLine wording = .ok settings) :
    IsMisuse files arguments wording ↔
      commandLine.command ≠ .validate ∧ "--kerberos" ∈ arguments := by
  unfold IsMisuse
  rw [accepted]
  refine or_iff_right fun wrong => ?_
  obtain ⟨fault, failed⟩ := settings_eq_error_iff.2 wrong
  rw [loaded] at failed
  cases failed

variable {network now} {files : Files} {arguments : List String} {wording : Toml.Wording}
  {outcome : Outcome}

theorem Course.misuse_iff (course : Course network now files arguments wording outcome) :
    outcome.exit = .misuse ↔ IsMisuse files arguments wording := by
  cases course with
  | rejected rejection parsed =>
    unfold IsMisuse Program.rejected
    rw [parsed]
    dsimp only
    cases rejection.isFault <;> decide
  | unsettled commandLine fault accepted failed =>
    refine iff_of_true rfl ?_
    unfold IsMisuse
    rw [accepted]
    exact .inl (settings_eq_error_iff.1 ⟨fault, failed⟩)
  | validated commandLine settings accepted loaded asked =>
    rw [isMisuse_iff_of_settings accepted loaded]
    exact iff_of_false nofun fun misused => misused.1 asked
  | carriedOut commandLine settings run accepted loaded asked =>
    have checks : commandLine.command ≠ .validate := by
      intro validates
      rw [validates] at asked
      cases asked
    have misused : (carryOut network now run).exit = .misuse ↔ run.target.kerberos.isSome :=
      (run.executed network now).misuse.1
    rw [isMisuse_iff_of_settings accepted loaded, misused,
      Command.isSome_kerberos accepted asked, decide_eq_true_iff]
    exact (and_iff_right checks).symm

theorem Course.untouched (course : Course network now files arguments wording outcome)
    (misused : outcome.exit = .misuse) : outcome.dialled = [] ∧ outcome.exchanges = [] := by
  cases course with
  | carriedOut _ _ run => exact (run.executed network now).misuse.2 misused
  | rejected | unsettled | validated => exact ⟨rfl, rfl⟩

/-- Once it has dialled, the program is executing a run, and ends as the run does. -/
theorem Course.contacted (course : Course network now files arguments wording outcome)
    (dialled : outcome.dialled ≠ []) :
    ∃ commandLine settings run, CommandLine.parse arguments = .ok commandLine ∧
      Program.settings files commandLine wording = .ok settings ∧
      commandLine.command.run settings = some run ∧
      outcome.dialled = [run.target.address] ∧
      (∀ e, (run.execute network now).result = .error e → outcome.exit = .failure) ∧
      (∀ report, (run.execute network now).result = .ok report → outcome.exit = .success) ∧
      (run.suite ≠ .authorization → ∀ x ∈ outcome.exchanges, ¬ x.Passes →
        outcome.exit = .failure) := by
  cases course with
  | rejected | unsettled | validated => exact absurd rfl dialled
  | carriedOut commandLine settings run accepted loaded asked =>
    have executed := run.executed network now
    unfold carryOut at dialled ⊢
    dsimp only at dialled ⊢
    cases kerberos : run.target.kerberos with
    | some _ =>
      have misused := executed.misuse.1.2 (by rw [kerberos]; rfl)
      exact absurd (executed.misuse.2 misused).1 dialled
    | none =>
      obtain ⟨dials, fails⟩ := executed.of_plain kerberos
      have failed : ∀ e, (run.execute network now).result = .error e →
          exitOf (run.execute network now).result = .failure := by
        intro e failed
        rw [failed]
        exact fails e failed
      refine ⟨commandLine, settings, run, accepted, loaded, asked, dials, failed, ?_, ?_⟩
      · intro report passed
        rw [passed]
        rfl
      · intro schema x made other
        cases result : (run.execute network now).result with
        | error e => exact fails e result
        | ok report =>
          cases suite : run.suite with
          | authorization => exact absurd suite schema
          | schema scenarios => exact absurd (executed.passes suite result x made) other

/-- **Exit code 2 means that nothing was contacted.**  The program exits with 2 just when its call
has a mistake in it, and then it has dialled nothing and made no call.

Once it has dialled, it is executing a run: an error in which that ends gives 255, and a report 0.
In the schema suite every answer that does not pass ends the run so.  The authorization suite is
after a refusal, which it reports; that it got none is its error.

Another client would not change this: the errors in which checks over an authenticated stream end
have the same exit, but for a breakdown, after which the program is left with 101. -/
theorem run_misuse (network : Network σ) (now : Int32) (files : Files) (arguments : List String)
    (wording : Toml.Wording) :
    let outcome := run network now files arguments wording
    (outcome.exit.code = 2 ↔ IsMisuse files arguments wording) ∧
      (outcome.exit.code = 2 → outcome.dialled = [] ∧ outcome.exchanges = []) ∧
      (outcome.dialled ≠ [] → ∃ commandLine settings run,
        CommandLine.parse arguments = .ok commandLine ∧
          Program.settings files commandLine wording = .ok settings ∧
          commandLine.command.run settings = some run ∧
          outcome.dialled = [run.target.address] ∧
          (∀ e, (run.execute network now).result = .error e → outcome.exit.code = 255) ∧
          (∀ report, (run.execute network now).result = .ok report → outcome.exit.code = 0) ∧
          (run.suite ≠ .authorization → ∀ x ∈ outcome.exchanges, ¬ x.Passes →
            outcome.exit.code = 255)) ∧
      ∀ (run : Run) (c : SaslClient) (e : Error),
        (run.performed (SaslClient.client now) c).result = .error e →
          e.exit.code = if e = .breakdown then 101 else 255 := by
  intro outcome
  have course : Course network now files arguments wording outcome :=
    course_run network now files arguments wording
  rw [Exit.code_eq_two_iff]
  refine ⟨course.misuse_iff, course.untouched, fun dialled => ?_, fun run c e failed => ?_⟩
  · obtain ⟨commandLine, settings, run, accepted, loaded, asked, dials, fails, passes, stops⟩ :=
      course.contacted dialled
    exact ⟨commandLine, settings, run, accepted, loaded, asked, dials,
      fun e failed => congrArg Exit.code (fails e failed),
      fun report passed => congrArg Exit.code (passes report passed),
      fun schema x made other => congrArg Exit.code (stops schema x made other)⟩
  · by_cases broke : e = .breakdown
    · rw [if_pos broke, broke]
      rfl
    · rw [if_neg broke]
      exact congrArg Exit.code (SaslClient.isFailure_of_performed failed broke)

/-- On a host without a route, Kerberos is refused before anything is dialled, and a plain run fails
behind it. -/
theorem run_misuse_offline :
    let files : Files := fun _ => .error .notFound
    let refused := run Network.offline 0 files ["authz", "-m", "h", "--kerberos"]
    let unreached := run Network.offline 0 files ["smoke", "-m", "h"]
    (IsMisuse files ["authz", "-m", "h", "--kerberos"] .brief ∧ refused.exit.code = 2 ∧
        refused.dialled = [] ∧ refused.exchanges = []) ∧
      ¬ IsMisuse files ["smoke", "-m", "h"] .brief ∧ unreached.dialled = ["h:9083"] ∧
        unreached.exit.code = 255 := by
  intro files refused unreached
  have asks : CommandLine.parse ["authz", "-m", "h", "--kerberos"] =
      .ok { command := .authz { place := .host "h", kerberos := true } } := rfl
  have misuse : IsMisuse files ["authz", "-m", "h", "--kerberos"] .brief := by
    unfold IsMisuse
    rw [asks]
    exact .inr ⟨nofun, by decide⟩
  obtain ⟨code, untouched, -⟩ :=
    run_misuse Network.offline 0 files ["authz", "-m", "h", "--kerberos"] .brief
  obtain ⟨code', -, contacted, -⟩ := run_misuse Network.offline 0 files ["smoke", "-m", "h"] .brief
  have dialled : unreached.dialled = ["h:9083"] := by decide +kernel
  obtain ⟨commandLine, settings, run, accepted, loaded, asked, -, fails, -, -⟩ :=
    contacted (by rw [dialled]; nofun)
  have plain : CommandLine.parse ["smoke", "-m", "h"] =
      .ok { command := .smoke { place := .host "h" } [] } := rfl
  cases plain.symm.trans accepted
  cases loaded
  cases asked
  have failed : unreached.exit.code = 255 := fails (Network.unreached ⟨"h", 9083, none⟩ _) rfl
  refine ⟨⟨misuse, code.2 misuse, untouched (code.2 misuse)⟩, ?_, dialled, failed⟩
  intro misused
  have twice : unreached.exit.code = 2 := code'.2 misused
  rw [failed] at twice
  exact absurd twice (by decide)

end Program

end MetastoreProbe
