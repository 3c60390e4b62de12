import MetastoreProbe.Text.Quoted
import MetastoreProbe.Text.Search

/-!
# Words in texts

A word stands somewhere in a text if it is a part of its characters (`Text.occursIn_iff`).  Quoting
writes some characters as escapes, and no escape has a capital in it.  So quoting neither hides a
word nor makes one up, if the word starts with a capital and needs no escapes itself
(`Text.infix_quoted_iff`).
-/

namespace MetastoreProbe

namespace Text

variable {α : Type}

theorem occursIn_iff {needle text : List Char} :
    occursIn needle text = true ↔ needle <:+: text := by
  induction text with
  | nil => simp [occursIn]
  | cons c text ih => simp [occursIn, List.infix_cons_iff, ih]

/-- What stands in a part of a text stands in the text. -/
theorem contains_trans {text part needle : String} (h : contains text part = true)
    (h' : contains part needle = true) : contains text needle = true :=
  occursIn_iff.2 ((occursIn_iff.1 h').trans (occursIn_iff.1 h))

/-! ## Separators -/

/-- A word that starts in front of a separator ends there. -/
theorem prefix_append_cons_iff {word before after : List α} {mark : α} (unmarked : mark ∉ word) :
    word <+: before ++ mark :: after ↔ word <+: before := by
  refine ⟨fun starts => ?_, fun starts => starts.trans (List.prefix_append _ _)⟩
  rcases Nat.le_total word.length before.length with short | long
  · exact List.prefix_of_prefix_length_le starts (List.prefix_append _ _) short
  · have whole : before <+: word :=
      List.prefix_of_prefix_length_le (List.prefix_append _ _) starts long
    obtain ⟨behind, rfl⟩ := whole
    rw [List.prefix_append_right_inj] at starts
    cases behind with
    | nil => simp
    | cons x behind =>
      rw [List.cons_prefix_cons] at starts
      exact absurd starts.1.symm (fun same => unmarked (by simp [same]))

/-- A word that has no mark in it stands behind the mark. -/
theorem infix_cons_iff_of_notMem {word after : List α} {mark : α} (unmarked : mark ∉ word) :
    word <:+: mark :: after ↔ word <:+: after := by
  have starts : word <+: [] ++ mark :: after ↔ word <+: [] := prefix_append_cons_iff unmarked
  rw [List.nil_append, List.prefix_nil] at starts
  rw [List.infix_cons_iff, starts]
  refine or_iff_right_of_imp ?_
  rintro rfl
  exact List.nil_infix

/-- **A word stands on one side of a separator.** -/
theorem infix_append_cons_iff {word before after : List α} {mark : α} (unmarked : mark ∉ word) :
    word <:+: before ++ mark :: after ↔ word <:+: before ∨ word <:+: after := by
  induction before with
  | nil =>
    rw [List.nil_append, infix_cons_iff_of_notMem unmarked, List.infix_nil]
    refine (or_iff_right_of_imp ?_).symm
    rintro rfl
    exact List.nil_infix
  | cons x before ih =>
    rw [List.cons_append, List.infix_cons_iff, List.infix_cons_iff, ih, ← List.cons_append,
      prefix_append_cons_iff unmarked, or_assoc]

/-- A word is not found where its first letter does not occur. -/
theorem infix_append_iff_of_notMem {first : α} {word before after : List α}
    (absent : first ∉ before) :
    first :: word <:+: before ++ after ↔ first :: word <:+: after := by
  induction before with
  | nil => rfl
  | cons x before ih =>
    obtain ⟨other, absent⟩ := List.ne_and_not_mem_of_not_mem_cons absent
    rw [List.cons_append, List.infix_cons_iff, ih absent, List.cons_prefix_cons]
    simp [other]

/-! ## Escapes -/

theorem hexDigits_small :
    ∀ n < 160, (hexDigits n).all (fun c => !c.isUpper && c != '\n') = true := by
  decide +kernel

/-- A character that is no line feed stands for itself, or an escape in which there are no capitals
and no line feeds stands for it. -/
theorem escape_cases (c : Char) :
    escape c = [c] ∧ c ≠ '\n' ∨
      ∃ mark, escape c = '\\' :: mark ∧ ∀ x ∈ mark, x.isUpper = false ∧ x ≠ '\n' := by
  unfold escape
  split
  · exact .inr ⟨_, rfl, by simp⟩
  split
  · exact .inr ⟨_, rfl, by simp⟩
  split
  · exact .inr ⟨_, rfl, by simp⟩
  split
  · exact .inr ⟨_, rfl, by simp⟩
  split
  · exact .inr ⟨_, rfl, by simp⟩
  split
  · exact .inr ⟨_, rfl, by simp⟩
  split
  next control =>
    have small : c.toNat < 160 := by
      rcases control with below | ⟨-, below⟩
      · exact Nat.lt_trans (Char.lt_def.1 below) (by decide)
      · exact Char.lt_def.1 below
    refine .inr ⟨'u' :: '\x7b' :: (hexDigits c.toNat ++ ['\x7d']), rfl, ?_⟩
    have digits := hexDigits_small c.toNat small
    simpa [or_imp, forall_and] using digits
  next other _ _ => exact .inl ⟨rfl, other⟩

/-- Quoting leaves no line feed. -/
theorem lineFeed_not_mem_quoted (text : String) : '\n' ∉ (quoted text).toList := by
  have escaped (c : Char) : '\n' ∉ escape c := by
    rcases escape_cases c with ⟨same, other⟩ | ⟨mark, escaped, small⟩
    · rw [same]
      exact fun mem => other (List.mem_singleton.1 mem).symm
    · rw [escaped]
      intro mem
      rcases List.mem_cons.1 mem with slash | mem
      · cases slash
      · exact (small _ mem).2 rfl
  have around : '\n' ≠ '"' := by decide
  simp [quoted, escaped, around]

section Escaped

variable {word text : List Char}

/-- An escape is no character of a word that needs none. -/
theorem not_mem_of_escape {c : Char} {mark : List Char} (escaped : escape c = '\\' :: mark)
    (plain : ∀ x ∈ word, escape x = [x]) : c ∉ word ∧ '\\' ∉ word := by
  have slash : '\\' ∉ word := fun mem => absurd (plain _ mem) (by decide)
  refine ⟨fun mem => ?_, slash⟩
  rw [plain c mem] at escaped
  cases escaped
  exact slash mem

/-- A word that needs no escapes starts an escaped text just when it starts the text. -/
theorem prefix_flatMap_escape_iff (plain : ∀ x ∈ word, escape x = [x]) :
    word <+: text.flatMap escape ↔ word <+: text := by
  induction text generalizing word with
  | nil => rfl
  | cons c text ih =>
    cases word with
    | nil => simp
    | cons x word =>
      have rest : ∀ y ∈ word, escape y = [y] := fun y mem => plain y (List.mem_cons_of_mem x mem)
      rw [List.flatMap_cons, List.cons_prefix_cons]
      rcases escape_cases c with ⟨same, -⟩ | ⟨mark, escaped, -⟩
      · rw [same, List.singleton_append, List.cons_prefix_cons, ih rest]
      · obtain ⟨notC, notSlash⟩ := not_mem_of_escape escaped plain
        rw [escaped, List.cons_append, List.cons_prefix_cons]
        have differs : x ≠ c ∧ x ≠ '\\' := by
          constructor <;> rintro rfl
          · exact notC List.mem_cons_self
          · exact notSlash List.mem_cons_self
        simp [differs]

/-- **Escaping neither hides a word nor makes one up**, if the word starts with a capital and needs
no escapes itself. -/
theorem infix_flatMap_escape_iff {first : Char} (capital : first.isUpper = true)
    (plain : ∀ x ∈ first :: word, escape x = [x]) :
    first :: word <:+: text.flatMap escape ↔ first :: word <:+: text := by
  induction text with
  | nil => rfl
  | cons c text ih =>
    rw [List.flatMap_cons]
    rcases escape_cases c with ⟨same, -⟩ | ⟨mark, escaped, small⟩
    · have starts : first :: word <+: (c :: text).flatMap escape ↔ first :: word <+: c :: text :=
        prefix_flatMap_escape_iff plain
      rw [List.flatMap_cons, same, List.singleton_append] at starts
      rw [same, List.singleton_append, List.infix_cons_iff, List.infix_cons_iff, starts, ih]
    · obtain ⟨notC, notSlash⟩ := not_mem_of_escape escaped plain
      have absent : first ∉ mark := fun mem => by simp [(small first mem).1] at capital
      rw [escaped, List.cons_append, infix_cons_iff_of_notMem notSlash,
        infix_append_iff_of_notMem absent, infix_cons_iff_of_notMem notC, ih]

end Escaped

/-- Such a word stands in a quoted text with other texts around it just where it stands in one of
them. -/
theorem infix_quoted_iff {first : Char} {word before after : List Char} {text : String}
    (capital : first.isUpper = true) (plain : ∀ x ∈ first :: word, escape x = [x]) :
    first :: word <:+: before ++ (quoted text).toList ++ after ↔
      first :: word <:+: before ∨ first :: word <:+: text.toList ∨ first :: word <:+: after := by
  have unmarked : '"' ∉ first :: word := fun mem => absurd (plain _ mem) (by decide)
  have split : before ++ (quoted text).toList ++ after =
      before ++ '"' :: (text.toList.flatMap escape ++ '"' :: after) := by
    simp [quoted]
  rw [split, infix_append_cons_iff unmarked, infix_append_cons_iff unmarked,
    infix_flatMap_escape_iff capital plain]

end Text

end MetastoreProbe
