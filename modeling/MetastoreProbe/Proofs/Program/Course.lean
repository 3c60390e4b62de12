import MetastoreProbe.Program
import MetastoreProbe.Proofs.Settings.Loading

/-!
# Courses of the program

What one call of the program can do, said once: `Program.Course` lists the ways in which a call can
go, each with its outcome, and `Program.course_run` says that every call takes one of them.  The
laws about exits and about the output go by the courses, and the program is not opened again.

How it is told that a settings file is wrong is left open, as everywhere: a course is one for any
`Toml.Wording`.
-/

namespace MetastoreProbe

/-- The commands other than `validate` check a metastore. -/
theorem Command.run_eq_none_iff {command : Command} {settings : Settings} :
    command.run settings = none ↔ command = .validate := by
  cases command <;> simp [run]

theorem Error.exit_ne_success (e : Error) : e.exit ≠ .success := by
  cases e <;> simp [exit]

theorem Exit.code_eq_zero_iff {exit : Exit} : exit.code = 0 ↔ exit = .success := by
  cases exit <;> decide

theorem Exit.code_eq_two_iff {exit : Exit} : exit.code = 2 ↔ exit = .misuse := by
  cases exit <;> decide

namespace Program

variable {σ : Type} (network : Network σ) (now : Int32)

/-- The ways in which a call of the program can go, each with its outcome. -/
inductive Course (files : Files) (arguments : List String) (wording : Toml.Wording) : Outcome → Prop
  | rejected (rejection : CommandLine.Rejection)
    (parsed : CommandLine.parse arguments = .error rejection) :
    Course files arguments wording (rejected rejection)
  /-- The settings could not be had. -/
  | unsettled (commandLine : CommandLine) (fault : ConfigFault)
    (accepted : CommandLine.parse arguments = .ok commandLine)
    (failed : Program.settings files commandLine wording = .error fault) :
    Course files arguments wording { exit := .misuse, console := [errorEntry (.config fault)] }
  | validated (commandLine : CommandLine) (settings : Settings)
    (accepted : CommandLine.parse arguments = .ok commandLine)
    (loaded : Program.settings files commandLine wording = .ok settings)
    (asked : commandLine.command = .validate) :
    Course files arguments wording
      { exit := .success, console := [.plain "Configuration is valid"] }
  /-- A metastore was to be checked. -/
  | carriedOut (commandLine : CommandLine) (settings : Settings) (run : Run)
    (accepted : CommandLine.parse arguments = .ok commandLine)
    (loaded : Program.settings files commandLine wording = .ok settings)
    (asked : commandLine.command.run settings = some run) :
    Course files arguments wording (carryOut network now run)

/-- Settings that a command goes by are valid. -/
theorem validate_of_settings {files : Files} {commandLine : CommandLine} {wording : Toml.Wording}
    {settings : Settings} (loaded : Program.settings files commandLine wording = .ok settings) :
    settings.validate = .ok () := by
  unfold Program.settings at loaded
  split at loaded
  · exact Settings.validate_of_load loaded
  · cases loaded
    rfl

/-- **A call of the program takes one of its courses.** -/
theorem course_run (files : Files) (arguments : List String) (wording : Toml.Wording) :
    Course network now files arguments wording (run network now files arguments wording) := by
  unfold run
  cases accepted : CommandLine.parse arguments with
  | error rejection => exact .rejected rejection accepted
  | ok commandLine =>
    cases loaded : Program.settings files commandLine wording with
    | error fault =>
      simp only [loaded]
      exact .unsettled commandLine fault accepted loaded
    | ok settings =>
      simp only [loaded, perform]
      cases asked : commandLine.command.run settings with
      | some run => exact .carriedOut commandLine settings run accepted loaded asked
      | none =>
        simp only [validate_of_settings loaded]
        exact .validated commandLine settings accepted loaded (Command.run_eq_none_iff.1 asked)

theorem exitOf_eq_success_iff {result : Except Error Report} :
    exitOf result = .success ↔ ∃ report, result = .ok report := by
  cases result with
  | ok report => exact iff_of_true rfl ⟨report, rfl⟩
  | error e => exact iff_of_false e.exit_ne_success nofun

end Program

end MetastoreProbe
