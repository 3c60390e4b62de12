import MetastoreProbe.CommandLine.Option

/-!
# What options give

`Given` collects what the options of one part of the command line say.  An option that takes a
value says it once, except that scenarios add up and the demand for detail is counted; saying it
again is refused whatever the value is, and only then is the value looked at.

Some options say that nothing is to be run: asking for help or for the version ends the reading of
the command line like a fault does, so both are a `Rejection`.
-/

namespace MetastoreProbe

namespace CommandLine

/-- Why a command line leads to no command. -/
inductive Rejection
  /-- Help is asked for. -/
  | help
  /-- The version is asked for. -/
  | version
  /-- Nothing is said at all. -/
  | nothingSaid
  | missingCommand
  | unknownCommand
  | unknownArgument
  /-- An option that takes no value has one. -/
  | unexpectedValue
  /-- An option has no value, or an empty one where that cannot be. -/
  | missingValue
  | unreadableValue
  /-- An option is given twice, or two that exclude each other are given. -/
  | conflict
  /-- Neither a host nor a namespace is named. -/
  | missingPlace
  deriving DecidableEq, Repr

/-- Whether the user has made a mistake. -/
def Rejection.isFault : Rejection → Bool
  | help | version => false
  | nothingSaid | missingCommand | unknownCommand | unknownArgument | unexpectedValue
  | missingValue | unreadableValue | conflict | missingPlace => true

/-- What the user is told about a rejection. -/
def Rejection.message : Rejection → String
  | help => "Commands: smoke, authz, validate, help"
  | version => "The version was asked for"
  | nothingSaid | missingCommand => "A command is required: smoke, authz, validate or help"
  | unknownCommand => "This is no command"
  | unknownArgument => "An argument is unknown"
  | unexpectedValue => "An option takes no value"
  | missingValue => "An option lacks its value"
  | unreadableValue => "The value of an option cannot be read"
  | conflict => "Options exclude each other or are given twice"
  | missingPlace => "Either --metastore or --namespace is required"

/-! ## Values -/

/-- The number that a word spells: digits, after a sign or not. -/
def integer? (word : String) : Option Int :=
  let digits (cs : List Char) : Option Nat :=
    if cs ≠ [] ∧ cs.all Char.isDigit then
      some (cs.foldl (fun n c => n * 10 + (c.toNat - '0'.toNat)) 0)
    else none
  match word.toList with
  | '-' :: rest => (digits rest).map (fun n => -(n : Int))
  | '+' :: rest => (digits rest).map Int.ofNat
  | cs => (digits cs).map Int.ofNat

/-- The port that a word spells. -/
def readPort (word : String) : Except Rejection UInt16 :=
  match integer? word with
  | none => .error .unreadableValue
  | some n =>
    if 0 ≤ n ∧ n < 65536 then .ok (UInt16.ofNat n.toNat) else .error .unreadableValue

/-- The log format that a word names. -/
def readLogFormat (word : String) : Except Rejection LogFormat :=
  (LogFormat.parse word).mapError fun _ => .unreadableValue

/-- The scenarios that a word names, with commas between them. -/
def readScenarios (word : String) : Except Rejection (List Scenario) :=
  ((word.toList.splitOn ',').map String.ofList).mapM fun name =>
    (Scenario.parse name).mapError fun _ => .unreadableValue

/-! ## Collecting -/

/-- What the options of a part of the command line say. -/
structure Given where
  config : Option String := none
  verbosity : Nat := 0
  logFormat : Option LogFormat := none
  port : Option UInt16 := none
  database : Option String := none
  metastore : Option String := none
  space : Option String := none
  kerberos : Bool := false
  scenarios : List Scenario := []
  deriving DecidableEq, Repr

namespace Given

/-- The highest count of the demand for detail. -/
def maxVerbosity : Nat := 255

/-- Fills in a value that has not been given before. -/
def once {α β : Type} (current : Option α) (read : Except Rejection α) (set : α → β) :
    Except Rejection β :=
  match current with
  | some _ => .error .conflict
  | none => read.map set

/-- What is given with one more option that takes no value. -/
def flag (g : Given) : Opt → Except Rejection Given
  | .verbose => .ok { g with verbosity := min (g.verbosity + 1) maxVerbosity }
  | .kerberos => if g.kerberos then .error .conflict else .ok { g with kerberos := true }
  | .help => .error .help
  | .version => .error .version
  | .config | .logFormat | .port | .database | .metastore | .space | .scenario =>
    .error .missingValue

/-- What is given with one more option and its value. -/
def option (g : Given) (opt : Opt) (value : String) : Except Rejection Given :=
  match opt with
  | .config =>
    once g.config (if value.isEmpty then .error .missingValue else .ok value)
      fun path => { g with config := some path }
  | .logFormat =>
    once g.logFormat (readLogFormat value) fun f => { g with logFormat := some f }
  | .port => once g.port (readPort value) fun n => { g with port := some n }
  | .database => once g.database (.ok value) fun name => { g with database := some name }
  | .metastore => once g.metastore (.ok value) fun name => { g with metastore := some name }
  | .space => once g.space (.ok value) fun name => { g with space := some name }
  | .scenario =>
    (readScenarios value).map fun more => { g with scenarios := g.scenarios ++ more }
  | .verbose | .kerberos | .help | .version => .error .unexpectedValue

/-- The place that is named: a host or a namespace, but not both. -/
def place (g : Given) : Except Rejection Place :=
  match g.metastore, g.space with
  | some _, some _ => .error .conflict
  | some name, none => .ok (.host name)
  | none, some name => .ok (.space name)
  | none, none => .error .missingPlace

/-- What is said about the metastore. -/
def access (g : Given) : Except Rejection Access := do
  let place ← g.place
  return { place, port := g.port, database := g.database, kerberos := g.kerberos }

/-- The command of a word, with what its options say. -/
def command (g : Given) : Word → Except Rejection Command
  | .smoke => do return .smoke (← g.access) g.scenarios
  | .authz => do return .authz (← g.access)
  | .validate => .ok .validate
  | .help => .error .help

end Given

end CommandLine

end MetastoreProbe
