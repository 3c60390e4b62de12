import MetastoreProbe.CommandLine.Parse
import MetastoreProbe.Execution
import MetastoreProbe.Settings.File

/-!
# The program

`Program.run` is everything that one call of the program does, as a function of the network, the
files, the arguments and the wording for documents that are wrong: its exit, what it printed, what
it dialled and which calls it made.

The exit tells whose fault it is.  With `misuse` the arguments or the settings were wrong and
nothing was dialled; with `failure` a check did not pass or could not be made.  A passing run ends
with its one line tagged as success.  After a breakdown nothing more is printed.
-/

namespace MetastoreProbe

/-- How the program ends. -/
inductive Exit
  | success
  | misuse
  | failure
  | breakdown
  deriving DecidableEq, Repr

/-- The number that the system is given for an exit. -/
def Exit.code : Exit → UInt8
  | success => 0
  | misuse => 2
  | failure => 255
  | breakdown => 101

/-- The exit for an error that ended a command. -/
def Error.exit : Error → Exit
  | usage _ | config _ => .misuse
  | metastore _ | schemaMismatch _ _ _ | authorizationNotEnforced _ | io _ => .failure
  | breakdown => .breakdown

namespace Program

open Console (Entry)

/-- The name of the program. -/
def name : String := "hms-smoke"

/-- The version of the program. -/
def version : String := "0.1.0"

/-- What one call of the program does. -/
structure Outcome where
  exit : Exit
  /-- The entries printed, the first one first. -/
  console : List Entry := []
  /-- The addresses that were dialled, the first one first. -/
  dialled : List String := []
  /-- The calls made, the first one first. -/
  exchanges : List Exchange := []

/-! ## Verdicts -/

/-- The entry that reports an error. -/
def errorEntry (e : Error) : Entry := .tagged .error e.message

/-- What is announced before a run connects. -/
def announcement (run : Run) : List Entry :=
  match run.suite with
  | .schema _ => []
  | .authorization => [.tagged .info (authorizationAttempt run.database)]

/-- The entry that reports a run that passed. -/
def successEntry (run : Run) : Entry :=
  match run.suite with
  | .schema _ => .tagged .success "Test finished successfully!"
  | .authorization =>
    .tagged .success
      s!"Test hive-metastore-opa-authorizer succeeded. Could not access database '{run.database}'!"

/-- What is printed of how a run ended: nothing, after a breakdown. -/
def verdict (run : Run) : Except Error Report → List Entry
  | .ok _ => [successEntry run]
  | .error .breakdown => []
  | .error e => [errorEntry e]

/-- The exit for how a run ended. -/
def exitOf : Except Error Report → Exit
  | .ok _ => .success
  | .error e => e.exit

/-- What a rejected command line leads to.  The version and the help are printed; mistakes are told
on the error output, which is no part of the outcome. -/
def rejected (r : CommandLine.Rejection) : Outcome where
  exit := if r.isFault then .misuse else .success
  console :=
    if r = .version then [.plain s!"{name} {version}"]
    else if r.isFault then []
    else [.plain r.message]

/-! ## Commands -/

variable {σ : Type} (network : Network σ) (now : Int32)

/-- Makes the checks of a run and gives the verdict. -/
def carryOut (run : Run) : Outcome :=
  let execution := run.execute network now
  { exit := exitOf execution.result
    console := announcement run ++ execution.console ++ verdict run execution.result
    dialled := execution.dialled
    exchanges := execution.exchanges }

/-- Does what a command asks for, with the given settings. -/
def perform (settings : Settings) (command : Command) : Outcome :=
  match command.run settings with
  | some run => carryOut network now run
  | none =>
    match settings.validate with
    | .ok () => { exit := .success, console := [.plain "Configuration is valid"] }
    | .error fault =>
      { exit := (Error.config fault).exit, console := [errorEntry (.config fault)] }

/-- The settings of a command line: those in its settings file, if it names one. -/
def settings (files : Files) (commandLine : CommandLine)
    (wording : Toml.Wording := Toml.Wording.brief) : Except ConfigFault Settings :=
  match commandLine.config with
  | some path => Settings.load files path wording
  | none => .ok {}

/-- Runs the program with the given arguments, its own name left out. -/
def run (files : Files) (arguments : List String)
    (wording : Toml.Wording := Toml.Wording.brief) : Outcome :=
  match CommandLine.parse arguments with
  | .error rejection => rejected rejection
  | .ok commandLine =>
    match settings files commandLine wording with
    | .error fault => { exit := .misuse, console := [errorEntry (.config fault)] }
    | .ok settings => perform network now settings commandLine.command

end Program

end MetastoreProbe
