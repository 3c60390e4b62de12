import MetastoreProbe.Toml.Entries
import MetastoreProbe.Toml.Text

/-!
# Reading TOML documents

`Toml.parse` reads a whole document: first its expressions, then the table that they make up.  The
nesting of arrays and of tables in braces is limited, and the number of levels that are left is
what the reading of values recurs on.
-/

namespace MetastoreProbe

namespace Toml

namespace Grammar

/-- A value without parts. -/
def scalar : Grammar Value :=
  Scan.orElse (do return .string (← string)) <|
  Scan.orElse (do return .dateTime (← dateTime)) <|
  Scan.orElse (do return .real (← real)) <|
  Scan.orElse (do return .integer (← integer)) <|
  Scan.orElse (do word "true"; return .boolean true) (do word "false"; return .boolean false)

/-- An array of values, between brackets. -/
def array (value : Grammar Value) : Grammar Value := do
  let _ ← char '['
  filler
  let items ← Scan.iterate (.expected "end of array")
    (fun (items : List Value) => do
      match ← Scan.optional (char ']') with
      | some _ => return .inr items
      | none =>
        let item ← value
        filler
        match ← one "comma" (fun c => c == ',' || c == ']') with
        | ',' => do
          filler
          return .inl (items ++ [item])
        | _ => return .inr (items ++ [item]))
    []
  return .array items

/-- A key and its value. -/
def keyValue (value : Grammar Value) : Grammar (List String × String × Value) := do
  let (path, last) ← key
  let _ ← char '='
  blanks
  return (path, last, ← value)

/-- A table in braces, on one line. -/
def inlineTable (value : Grammar Value) : Grammar Value := do
  let _ ← char '\x7b'
  blanks
  let pairs ←
    Scan.orElse (do let _ ← char '\x7d'; return []) <|
    Scan.iterate (.expected "end of table")
      (fun (pairs : List (List String × String × Value)) => do
        let pair ← keyValue value
        blanks
        match ← one "comma" (fun c => c == ',' || c == '\x7d') with
        | ',' => return .inl (pairs ++ [pair])
        | _ => return .inr (pairs ++ [pair]))
      []
  match Entries.ofPairs pairs with
  | .ok entries => return .table .inline entries
  | .error fault => throw fault

/-- A value, in which arrays and tables may nest `levels` deep. -/
def value : (levels : Nat) → Grammar Value
  | 0 => scalar
  | levels + 1 =>
    Scan.orElse (array (value levels)) <|
    Scan.orElse (inlineTable (value levels)) scalar

/-- The header of a table, with brackets of the given number. -/
def header (opening closing : String) : Grammar (List String × String) := do
  word opening
  let path ← key
  word closing
  lineRest
  return path

/-- What a line says, if it says something. -/
def expression : Grammar (Option Expression) := do
  match ← Scan.peek with
  | some '#' => do
    comment
    lineEnd
    return none
  | some '\n' | some '\r' => do
    newline
    return none
  | some '[' =>
    match ← Scan.optional (Scan.lookAhead (word "[[")) with
    | some _ => do
      let (path, last) ← header "[[" "]]"
      return some (.nextHeader path last)
    | none => do
      let (path, last) ← header "[" "]"
      return some (.header path last)
  | _ => do
    let (path, last, v) ← keyValue (value (tooDeepAt - 1))
    lineRest
    return some (.keyValue path last v)

/-- The expressions of a document.  A mark of the byte order may stand in front. -/
def document : Grammar (List Expression) := do
  let _ ← Scan.optional (char '\ufeff')
  blanks
  Scan.iterate (.expected "end of document")
    (fun (found : List Expression) => do
      match ← Scan.peek with
      | none => return .inr found.reverse
      | some _ =>
        let line ← expression
        blanks
        match line with
        | some e => return .inl (e :: found)
        | none => return .inl found)
    []

end Grammar

/-- The entries of the document that a text spells. -/
def parse (text : String) : Except Fault Entries := do
  let expressions ← Grammar.document.valueOf text.toList
  Document.ofExpressions expressions

end Toml

end MetastoreProbe
