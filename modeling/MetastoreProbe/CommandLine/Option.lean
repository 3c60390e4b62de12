import MetastoreProbe.CommandLine

/-!
# Options

The options of the command line and where they may stand.  Before the command word and after it
different options are known; the three that concern the program as a whole are known in both
places.
-/

namespace MetastoreProbe

namespace CommandLine

/-- The words that stand for a command. -/
inductive Word
  | smoke
  | authz
  | validate
  | help
  deriving DecidableEq, Repr

namespace Word

/-- The command words. -/
def all : List Word := [smoke, authz, validate, help]

/-- The spelling of a command word. -/
def text : Word → String
  | smoke => "smoke"
  | authz => "authz"
  | validate => "validate"
  | help => "help"

/-- The command word that an argument is, if it is one. -/
def ofString? (argument : String) : Option Word :=
  all.find? (fun w => w.text = argument)

end Word

/-- An option. -/
inductive Opt
  | config
  | verbose
  | logFormat
  | help
  | version
  | port
  | database
  | metastore
  | space
  | kerberos
  | scenario
  deriving DecidableEq, Repr

namespace Opt

/-- The name of an option, as it stands after two hyphens. -/
def name : Opt → String
  | config => "config"
  | verbose => "verbose"
  | logFormat => "log-format"
  | help => "help"
  | version => "version"
  | port => "port"
  | database => "database"
  | metastore => "metastore"
  | space => "namespace"
  | kerberos => "kerberos"
  | scenario => "scenario"

/-- The letter of an option, as it stands after one hyphen. -/
def letter? : Opt → Option Char
  | config => some 'c'
  | verbose => some 'v'
  | help => some 'h'
  | version => some 'V'
  | port => some 'p'
  | database => some 'd'
  | metastore => some 'm'
  | space => some 'n'
  | logFormat | kerberos | scenario => none

/-- Whether an option comes with a value. -/
def takesValue : Opt → Bool
  | config | logFormat | port | database | metastore | space | scenario => true
  | verbose | help | version | kerberos => false

end Opt

/-- A part of the command line. -/
inductive Part
  /-- Up to the command word. -/
  | front
  /-- After a command word. -/
  | after (word : Word)
  deriving DecidableEq, Repr

namespace Part

/-- The options known everywhere. -/
def everywhere : List Opt := [.config, .verbose, .logFormat, .help]

/-- The options that say where the metastore is. -/
def access : List Opt := [.port, .database, .metastore, .space, .kerberos]

/-- The options known in a part of the command line. -/
def options : Part → List Opt
  | front => everywhere ++ [.version]
  | after .smoke => everywhere ++ access ++ [.scenario]
  | after .authz => everywhere ++ access
  | after .validate | after .help => everywhere

/-- The option with a name. -/
def named? (part : Part) (name : String) : Option Opt :=
  part.options.find? (fun o => o.name = name)

/-- The option with a letter. -/
def lettered? (part : Part) (letter : Char) : Option Opt :=
  part.options.find? (fun o => o.letter? = some letter)

/-- The command word that an argument is, where one may stand. -/
def word? (part : Part) (argument : String) : Option Word :=
  match part with
  | front => Word.ofString? argument
  | after _ => none

end Part

/-! ## Forms of arguments -/

/-- The form of an argument. -/
inductive Form
  /-- Two hyphens: no option follows. -/
  | escape
  /-- A name after two hyphens, with what stands after the first `=`. -/
  | named (name : String) (value : Option String)
  /-- Letters after one hyphen. -/
  | lettered (letters : List Char)
  /-- Any other. -/
  | word
  deriving DecidableEq, Repr

/-- The form of an argument.  One hyphen by itself is a word. -/
def Form.ofString (argument : String) : Form :=
  match argument.toList with
  | ['-', '-'] => .escape
  | '-' :: '-' :: rest =>
    let name := String.ofList (rest.takeWhile (· ≠ '='))
    match rest.dropWhile (· ≠ '=') with
    | [] => .named name none
    | _ :: value => .named name (some (String.ofList value))
  | '-' :: letter :: letters => .lettered (letter :: letters)
  | _ => .word

end CommandLine

end MetastoreProbe
