import Mathlib.Algebra.GroupWithZero.Nat
import MetastoreProbe.Schema

/-!
# Schemas as they are shown

The text of a schema is made for people and escapes nothing, so that schemas can look alike: a part
of a column may have quotes in it and pass for the end of the part, of the column or of several
columns.  The quotes can be counted, though.  The text has six for each column and those that stand
in the parts (`Schema.quotes_text`), and a single column whose parts have none is shown with just
six.  No other schema looks like that one (`Schema.text_eq_singleton_iff`).
-/

namespace MetastoreProbe

/-- How many quotes stand in a text. -/
def Text.quotes (text : String) : Nat := text.toList.count '\''

open Text (quotes)

/-- Where a separator does not have a character, it stands in the parts only. -/
theorem count_intercalate {α : Type} [BEq α] [LawfulBEq α] {separator : List α} {a : α}
    (absent : a ∉ separator) (parts : List (List α)) :
    (separator.intercalate parts).count a = (parts.map (List.count a)).sum := by
  have none : separator.count a = 0 := List.count_eq_zero.2 absent
  induction parts with
  | nil => rfl
  | cons part parts ih =>
    cases parts with
    | nil => simp
    | cons next later =>
      rw [List.intercalate_cons_cons, List.count_append, List.count_append, none, ih]
      simp

/-! ## Columns -/

namespace Column

variable {c d : Column}

/-- How many quotes stand in the parts of a column. -/
def innerQuotes (c : Column) : Nat := quotes c.name + quotes c.type + quotes c.comment

/-- What stands between the quotes that enclose the parts of a column. -/
def pieces (c : Column) : List String :=
  ["FieldSchema(name=", c.name, ", type=", c.type, ", comment=", c.comment, ")"]

theorem text_eq_intercalate (c : Column) : c.text = "'".intercalate c.pieces := by
  have text : c.text = "FieldSchema(name='" ++ c.name ++ "', type='" ++ c.type ++
      "', comment='" ++ c.comment ++ "')" := rfl
  have opening : "FieldSchema(name='" = "FieldSchema(name=" ++ "'" := by decide
  have behindName : "', type='" = "'" ++ ", type=" ++ "'" := by decide
  have behindType : "', comment='" = "'" ++ ", comment=" ++ "'" := by decide
  have closing : "')" = "'" ++ ")" := by decide
  rw [text, opening, behindName, behindType, closing, ← String.toList_inj,
    String.toList_intercalate]
  simp only [pieces, List.map_cons, List.map_nil, List.intercalate_cons_cons,
    List.intercalate_singleton, String.toList_append, List.append_assoc]

theorem quotes_text (c : Column) : quotes c.text = 6 + c.innerQuotes := by
  have opening : "FieldSchema(name=".toList.count '\'' = 0 := by decide
  have behindName : ", type=".toList.count '\'' = 0 := by decide
  have behindType : ", comment=".toList.count '\'' = 0 := by decide
  have closing : ")".toList.count '\'' = 0 := by decide
  have quote : "'".toList.count '\'' = 1 := by decide
  rw [quotes, text_eq_intercalate, String.toList_intercalate]
  simp only [pieces, List.map_cons, List.map_nil, List.intercalate_cons_cons,
    List.intercalate_singleton, List.count_append, opening, behindName, behindType, closing, quote,
    innerQuotes, quotes]
  omega

/-- Between quotes, the parts of a column without any others stand as they are. -/
theorem splitOn_text (plain : c.innerQuotes = 0) :
    c.text.toList.splitOn '\'' = c.pieces.map String.toList := by
  have quote : "'".toList = ['\''] := by decide
  have fixed : '\'' ∉ "FieldSchema(name=".toList ∧ '\'' ∉ ", type=".toList ∧
      '\'' ∉ ", comment=".toList ∧ '\'' ∉ ")".toList := by decide
  have parts : '\'' ∉ c.name.toList ∧ '\'' ∉ c.type.toList ∧ '\'' ∉ c.comment.toList := by
    simp only [innerQuotes, quotes, Nat.add_eq_zero_iff, List.count_eq_zero] at plain
    exact ⟨plain.1.1, plain.1.2, plain.2⟩
  have bare : ∀ piece ∈ c.pieces.map String.toList, '\'' ∉ piece := by
    simp only [pieces, List.map_cons, List.map_nil, List.forall_mem_cons]
    exact ⟨fixed.1, parts.1, fixed.2.1, parts.2.1, fixed.2.2.1, parts.2.2, fixed.2.2.2, nofun⟩
  have some : c.pieces.map String.toList ≠ [] := List.cons_ne_nil _ _
  rw [text_eq_intercalate, String.toList_intercalate, quote]
  exact List.splitOn_intercalate '\'' bare some

/-- Columns without quotes in their parts look alike only if they are the same. -/
theorem eq_of_text_eq (plainC : c.innerQuotes = 0) (plainD : d.innerQuotes = 0)
    (same : c.text = d.text) : c = d := by
  have pieces : c.pieces.map String.toList = d.pieces.map String.toList := by
    rw [← splitOn_text plainC, ← splitOn_text plainD, same]
  obtain ⟨name, type, comment⟩ := c
  simp only [Column.pieces, List.map_cons, List.map_nil, List.cons.injEq, String.toList_inj]
    at pieces
  obtain ⟨-, rfl, -, rfl, -, rfl, -⟩ := pieces
  rfl

end Column

/-! ## Schemas -/

namespace Schema

theorem quotes_text (s : Schema) :
    quotes s.text = (s.columns.map fun c => 6 + c.innerQuotes).sum := by
  have bare : '\'' ∉ ", ".toList := by decide
  have opening : "[".toList.count '\'' = 0 := by decide
  have closing : "]".toList.count '\'' = 0 := by decide
  have shown : (List.count '\'' ∘ String.toList) ∘ Column.text = fun c => 6 + c.innerQuotes := by
    funext c
    rw [Function.comp_apply, Function.comp_apply, ← quotes, Column.quotes_text]
  rw [quotes, text, String.toList_append, String.toList_append, List.count_append,
    List.count_append, String.toList_intercalate, count_intercalate bare, opening, closing,
    List.map_map, List.map_map, shown, Nat.zero_add, Nat.add_zero]

theorem text_singleton (c : Column) : (⟨[c]⟩ : Schema).text = "[" ++ c.text ++ "]" := rfl

/-- **A single column without quotes in its parts is shown like no other schema**, whatever columns
that one has, and whatever stands in their parts. -/
theorem text_eq_singleton_iff {s : Schema} {c : Column} (plain : c.innerQuotes = 0) :
    s.text = (⟨[c]⟩ : Schema).text ↔ s = ⟨[c]⟩ := by
  refine ⟨fun same => ?_, congrArg text⟩
  obtain ⟨columns⟩ := s
  have counted : (columns.map fun d => 6 + d.innerQuotes).sum = 6 := calc
    _ = quotes (Schema.mk columns).text := (quotes_text ⟨columns⟩).symm
    _ = quotes (Schema.mk [c]).text := congrArg quotes same
    _ = 6 := by simp [quotes_text, plain]
  rcases columns with _ | ⟨d, _ | ⟨e, others⟩⟩
  · cases counted
  · have plainD : d.innerQuotes = 0 := by simpa using counted
    rw [text_singleton, text_singleton, String.append_left_inj, String.append_right_inj] at same
    rw [Column.eq_of_text_eq plainD plain same]
  · simp only [List.map_cons, List.sum_cons] at counted
    omega

/-- Two columns can be shown as one is. -/
example :
    (⟨[⟨"a", "b", "c"⟩, ⟨"d", "e", "f"⟩]⟩ : Schema).text =
      (⟨[⟨"a", "b", "c'), FieldSchema(name='d', type='e', comment='f"⟩]⟩ : Schema).text := by
  decide

end Schema

end MetastoreProbe
