import MetastoreProbe.CommandLine.Given

/-!
# Reading a command line

`CommandLine.parse` reads the arguments from left to right: options up to the command word, the
word, and options after it.  The first argument that does not fit decides the rejection.

The value of an option may stand in the next argument.  Such an option is *pending* (`Reading`)
and takes effect only when the next option does or when its part of the command line ends.  That
is why of two faults the later argument's can be the one that is reported, and why the options in
front of the command word come last when one of them is pending there.
-/

namespace MetastoreProbe

namespace CommandLine

/-- A part of the command line so far. -/
structure Reading where
  given : Given := {}
  /-- The last option, with its value if that has come. -/
  pending : Option (Opt × Option String) := none
  deriving DecidableEq, Repr

namespace Reading

/-- Lets the pending option take effect. -/
def settle (r : Reading) : Except Rejection Given :=
  match r.pending with
  | none => .ok r.given
  | some (_, none) => .error .missingValue
  | some (opt, some value) => r.given.option opt value

/-- The option whose value is the next word. -/
def awaiting? (r : Reading) : Option Opt :=
  match r.pending with
  | some (opt, none) => some opt
  | some (_, some _) | none => none

/-- Takes in an option without a value. -/
def flag (r : Reading) (opt : Opt) : Except Rejection Reading := do
  let given ← r.settle
  let given ← given.flag opt
  return { given }

/-- Takes in an option and its value. -/
def option (r : Reading) (opt : Opt) (value : String) : Except Rejection Reading := do
  let given ← r.settle
  let given ← given.option opt value
  return { given }

/-- Takes in an option whose value is to come. -/
def await (r : Reading) (opt : Opt) : Except Rejection Reading := do
  let given ← r.settle
  return { given, pending := some (opt, none) }

/-- Takes in an option with a name. -/
def named (part : Part) (name : String) (value : Option String) (r : Reading) :
    Except Rejection Reading :=
  match part.named? name with
  | none => .error .unknownArgument
  | some opt =>
    match opt.takesValue, value with
    | true, some value => r.option opt value
    | true, none => r.await opt
    | false, some _ => .error .unexpectedValue
    | false, none => r.flag opt

/-- Takes in options with letters.  What follows the letter of an option that takes a value is the
value, an equals sign between them left out. -/
def lettered (part : Part) : List Char → Reading → Except Rejection Reading
  | [], r => .ok r
  | letter :: rest, r =>
    match part.lettered? letter with
    | none => .error .unknownArgument
    | some opt =>
      if opt.takesValue then
        match rest with
        | [] => r.await opt
        | '=' :: value => r.option opt (String.ofList value)
        | value => r.option opt (String.ofList value)
      else do
        let r ← r.flag opt
        lettered part rest r

/-- Takes in a word as the value that is awaited. -/
def word (part : Part) (word : String) (r : Reading) : Except Rejection Reading :=
  match r.awaiting?, part with
  | some opt, _ => .ok { r with pending := some (opt, some word) }
  | none, .front => .error .unknownCommand
  | none, .after _ => .error .unknownArgument

/-- Takes in an argument. -/
def step (part : Part) (argument : String) (r : Reading) : Except Rejection Reading :=
  match Form.ofString argument with
  | .named name value => r.named part name value
  | .lettered letters => lettered part letters r
  | .word | .escape => r.word part argument

/-- The rejection of a word where no option follows any more. -/
def strayAfterEscape (part : Part) (argument : String) : Rejection :=
  match part with
  | .front => if (Word.ofString? argument).isSome then .unknownArgument else .unknownCommand
  | .after _ => .unknownArgument

end Reading

/-- Reads a part of the command line, up to a command word where one may stand.  The result has
the word and the arguments after it. -/
def readPart (part : Part) :
    (arguments : List String) → Reading → Except Rejection (Reading × Option (Word × List String))
  | [], r => .ok (r, none)
  | argument :: rest, r =>
    match r.awaiting?, part.word? argument with
    | none, some word => .ok (r, some (word, rest))
    | _, _ =>
      if Form.ofString argument = .escape then
        match rest with
        | [] => .ok (r, none)
        | stray :: _ => .error (Reading.strayAfterEscape part stray)
      else do
        let r ← r.step part argument
        readPart part rest r

/-- What comes of the command word `help` with the arguments after it: help, unless they name
something that there is no help on. -/
def helpOn : List String → Rejection
  | [] => .help
  | [topic] => if (Word.ofString? topic).isSome then .help else .unknownCommand
  | _ :: _ :: _ => .unknownCommand

/-- Reads the options after a command word. -/
def readCommand (word : Word) (arguments : List String) :
    Except Rejection (Command × Given) := do
  let (reading, _) ← readPart (.after word) arguments {}
  let given ← reading.settle
  let command ← given.command word
  return (command, given)

/-- Reads the arguments of the program, its own name left out.  Of an option that is given both
before and after the command word the latter counts. -/
def parse (arguments : List String) : Except Rejection CommandLine := do
  let (front, found) ← readPart .front arguments {}
  match found with
  | none => do
    let given ← front.settle
    .error (if given = {} then .nothingSaid else .missingCommand)
  | some (.help, rest) => .error (helpOn rest)
  | some (word, rest) => do
    let (command, after) ← readCommand word rest
    let before ← front.settle
    return {
      command
      config := after.config <|> before.config
      verbosity := if after.verbosity = 0 then before.verbosity else after.verbosity
      logFormat := after.logFormat <|> before.logFormat }

end CommandLine

end MetastoreProbe
