/-!
# Finding and replacing text

Occurrence, replacement and the cutting of text into lines, all on lists of characters: the
library's laws about names, hosts and console lines speak of these functions.
-/

namespace MetastoreProbe

namespace Text

/-- Whether `needle` stands somewhere in the characters. -/
def occursIn (needle : List Char) : List Char → Bool
  | [] => needle.isEmpty
  | c :: rest => needle.isPrefixOf (c :: rest) || occursIn needle rest

/-- Whether `needle` stands somewhere in `text`. -/
def contains (text needle : String) : Bool :=
  occursIn needle.toList text.toList

/-- Replaces each occurrence of `pattern`, leftmost first, none overlapping another; the first
`skip` characters belong to an occurrence already replaced. -/
def replaceFrom (pattern replacement : List Char) : Nat → List Char → List Char
  | _, [] => []
  | skip + 1, _ :: rest => replaceFrom pattern replacement skip rest
  | 0, c :: rest =>
    if pattern.isPrefixOf (c :: rest) then
      replacement ++ replaceFrom pattern replacement (pattern.length - 1) rest
    else
      c :: replaceFrom pattern replacement 0 rest

/-- The text with each occurrence of a nonempty `pattern` replaced, from left to right. -/
def replaceAll (text pattern replacement : String) : String :=
  String.ofList (replaceFrom pattern.toList replacement.toList 0 text.toList)

/-- The text without the run of `c` at its end. -/
def trimEnd (c : Char) (text : String) : String :=
  String.ofList (text.toList.reverse.dropWhile (· == c)).reverse

/-- What stands between the line feeds of `text`: one piece more than it has line feeds. -/
def lines (text : String) : List String :=
  (text.toList.splitOn '\n').map String.ofList

/-- The line without the carriage return that ends it, if one does.  Of several only the last goes:
with the line feed after it, it makes up one line break. -/
def withoutReturn (line : String) : String :=
  if line.toList.getLast? = some '\r' then String.ofList line.toList.dropLast else line

/-- The text with the letters `A` to `Z` in lower case; no other character changes. -/
def lowerAscii (text : String) : String :=
  String.ofList (text.toList.map Char.toLower)

end Text

end MetastoreProbe
