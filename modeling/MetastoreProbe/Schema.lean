/-!
# Schemas

A schema is the ordered list of a table's columns.  Two schemas agree only if they have the same
columns in the same order; the text that a mismatch shows (`Schema.text`) is made for people and
does not escape what it quotes.
-/

namespace MetastoreProbe

/-- A column: its name, its type as the metastore writes it, and its comment. -/
structure Column where
  name : String
  type : String
  comment : String
  deriving DecidableEq, Repr, Inhabited

/-- The text of a column. -/
def Column.text (c : Column) : String :=
  s!"FieldSchema(name='{c.name}', type='{c.type}', comment='{c.comment}')"

/-- The single column of every table that the smoke test creates. -/
def Column.id : Column :=
  ⟨"id", "string", "col comment"⟩

/-- The columns of a table, in order. -/
structure Schema where
  columns : List Column
  deriving DecidableEq, Repr, Inhabited

namespace Schema

/-- The schema of a table of the smoke test. -/
def oneColumn : Schema :=
  ⟨[Column.id]⟩

/-- The text of a schema. -/
def text (s : Schema) : String :=
  "[" ++ String.intercalate ", " (s.columns.map Column.text) ++ "]"

end Schema

end MetastoreProbe
