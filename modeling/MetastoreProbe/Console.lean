import MetastoreProbe.Text.Search

/-!
# Console lines

What the program tells on standard output.  Test drivers look for the tags, so their spelling is
part of the output's form.  An entry is printed followed by a line feed; a message that itself
contains line breaks takes up several lines, of which only the first is tagged.

Whoever reads the output by lines takes a line feed for a line break, together with the carriage
return before it if there is one.  A carriage return that ends a message is therefore lost to the
reader, and one inside a line is not.
-/

namespace MetastoreProbe

namespace Console

/-- What a tagged entry reports. -/
inductive Level
  | info
  | success
  | error
  | denied
  deriving DecidableEq, Repr

/-- The tag of a level. -/
def Level.tag : Level → String
  | .info => "[INFO]"
  | .success => "[SUCCESS]"
  | .error => "[ERROR]"
  | .denied => "[DENIED]"

/-- Something printed at once. -/
structure Entry where
  level : Option Level
  message : String
  deriving DecidableEq, Repr

namespace Entry

/-- A tagged entry. -/
def tagged (level : Level) (message : String) : Entry := ⟨some level, message⟩

/-- An entry without a tag. -/
def plain (message : String) : Entry := ⟨none, message⟩

/-- The text of an entry, without the line feed that ends it. -/
def text (e : Entry) : String :=
  match e.level with
  | some level => s!"{level.tag} {e.message}"
  | none => e.message

/-- The lines that an entry takes up.  Each ends with a line feed, the last one with that of the
entry. -/
def lines (e : Entry) : List String :=
  (Text.lines e.text).map Text.withoutReturn

end Entry

/-- The lines that entries take up, printed one after the other. -/
def lines (entries : List Entry) : List String :=
  entries.flatMap Entry.lines

end Console

end MetastoreProbe
