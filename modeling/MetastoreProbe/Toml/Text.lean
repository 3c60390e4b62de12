import MetastoreProbe.Toml.Number

/-!
# Strings, blanks and comments in TOML

A basic string knows escapes, a literal string none; each has a form over several lines, in which
a line break right after the opening is dropped and every line break counts as a line feed.
Control characters other than the tab stand in none of them, nor in a comment.
-/

namespace MetastoreProbe

namespace Toml

namespace Grammar

/-! ## Characters -/

/-- Whether a character is a blank within a line. -/
def isBlank (c : Char) : Bool := c == ' ' || c == '\t'

/-- Whether a character may stand in a comment. -/
def isCommentChar (c : Char) : Bool := c == '\t' || (' ' ≤ c && c ≠ '\x7f')

/-- Whether a character stands for itself in a basic string. -/
def isBasicChar (c : Char) : Bool := isCommentChar c && c ≠ '"' && c ≠ '\\'

/-- Whether a character may stand in a literal string. -/
def isLiteralChar (c : Char) : Bool := isCommentChar c && c ≠ '\x27'

/-- Whether a character may stand in a key without quotes. -/
def isBareKeyChar (c : Char) : Bool := c.isAlphanum || c == '-' || c == '_'

/-! ## Blanks, line ends and comments -/

/-- Blanks within a line. -/
def blanks : Grammar Unit := discard (Scan.takeWhile isBlank)

/-- The end of a line. -/
def newline : Grammar Unit :=
  Scan.orElse (discard (char '\n')) (word "\r\n")

/-- A comment, up to the end of its line. -/
def comment : Grammar Unit := do
  let _ ← char '#'
  let _ ← Scan.takeWhile isCommentChar

/-- The end of a line, or of the document. -/
def lineEnd : Grammar Unit :=
  Scan.orElse newline (Scan.atEnd (.expected "end of line"))

/-- What may stand on a line after what it says. -/
def lineRest : Grammar Unit := do
  blanks
  let _ ← Scan.optional comment
  lineEnd

/-- Blanks, line ends and comments between the parts of an array. -/
def filler : Grammar Unit :=
  discard (many (Scan.orElse (discard (some1 "blank" isBlank)) (Scan.orElse newline comment)))

/-! ## Strings -/

/-- The character that `count` hexadecimal digits stand for. -/
def hexEscape (count : Nat) : Grammar Char := do
  let digits ← Scan.collect count (one "hexadecimal digit" (isDigitOf 16))
  let n := ofDigits 16 digits
  if n.isValidChar then return Char.ofNat n else throw (.outOfRange "character")

/-- A character that is escaped. -/
def escape : Grammar Char := do
  let _ ← char '\\'
  match ← one "escape" (fun _ => true) with
  | 'b' => return '\x08'
  | 't' => return '\t'
  | 'n' => return '\n'
  | 'f' => return '\x0c'
  | 'r' => return '\r'
  | '"' => return '"'
  | '\\' => return '\\'
  | 'u' => hexEscape 4
  | 'U' => hexEscape 8
  | _ => throw (.expected "escape")

/-- A line break that is escaped, with the blanks and line ends around it. -/
def escapedNewline : Grammar Unit := do
  let _ ← char '\\'
  blanks
  newline
  let _ ← many (Scan.orElse (discard (some1 "blank" isBlank)) newline)

/-- A string in quotes, within a line. -/
def basicString : Grammar String := do
  let _ ← char '"'
  let parts ← many (Scan.orElse (some1 "character" isBasicChar) (do return [← escape]))
  let _ ← char '"'
  return String.ofList parts.flatten

/-- A string in apostrophes, within a line. -/
def literalString : Grammar String := do
  let _ ← char '\x27'
  let chars ← Scan.takeWhile isLiteralChar
  let _ ← char '\x27'
  return String.ofList chars

/-- A string over several lines between three of `quote` on either side; `part` reads what stands
between quotes.  Up to two quotes may stand within, and right before the end. -/
def longString (quote : Char) (part : Grammar (List Char)) : Grammar String := do
  word (String.ofList [quote, quote, quote])
  let _ ← Scan.optional newline
  let chars ← Scan.iterate (.expected "end of string")
    (fun (chars : List Char) => do
      let quotes ← Scan.takeWhile (· == quote)
      if 5 < quotes.length then
        throw (.expected "end of string")
      else if 3 ≤ quotes.length then
        return .inr (chars ++ quotes.drop 3)
      else if 0 < quotes.length then
        return .inl (chars ++ quotes)
      else
        return .inl (chars ++ (← part)))
    []
  return String.ofList chars

/-- What stands in a basic string over several lines. -/
def longBasicPart : Grammar (List Char) :=
  Scan.orElse (some1 "character" isBasicChar) <|
  Scan.orElse (do escapedNewline; return []) <|
  Scan.orElse (do return [← escape]) (do newline; return ['\n'])

/-- What stands in a literal string over several lines. -/
def longLiteralPart : Grammar (List Char) :=
  Scan.orElse (some1 "character" isLiteralChar) (do newline; return ['\n'])

/-- A string of any form. -/
def string : Grammar String :=
  Scan.orElse (longString '"' longBasicPart) <|
  Scan.orElse basicString <|
  Scan.orElse (longString '\x27' longLiteralPart) literalString

/-! ## Keys -/

/-- A part of a key. -/
def keyPart : Grammar String := do
  blanks
  let key ← Scan.orElse (do return String.ofList (← some1 "key" isBareKeyChar)) <|
    Scan.orElse basicString literalString
  blanks
  return key

/-- The number of levels at which a key or a value is too deep. -/
def tooDeepAt : Nat := 80

/-- A key: the parts before its last one, and that. -/
def key : Grammar (List String × String) := do
  let first ← keyPart
  let more ← many (do
    let _ ← char '.'
    keyPart)
  let parts := first :: more
  if tooDeepAt ≤ parts.length then throw .tooDeep else return (parts.dropLast, parts.getLastD "")

end Grammar

end Toml

end MetastoreProbe
