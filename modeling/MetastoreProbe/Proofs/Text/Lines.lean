import MetastoreProbe.Text.Words

/-!
# Lines that start with a mark

Which lines of a text start with a mark can be told without cutting the text into lines: the first
one does if the text does, and each other one that does stands behind a line feed that the mark
follows.  `Text.countP_lines` counts them that way, so that what a text can add to the marked
lines of an output is told by one number, `Text.occurrences`.

The number of a text that is put together is the sum of those of its pieces, if something stands
between them that a line feed and the mark cannot reach over (`Text.occurrences_append_cons`).
-/

namespace MetastoreProbe

namespace Text

/-- In how many places `needle` stands in the characters. -/
def occurrences (needle : List Char) : List Char → Nat
  | [] => 0
  | c :: rest => (if needle.isPrefixOf (c :: rest) then 1 else 0) + occurrences needle rest

/-- Whether a line starts with a mark. -/
def startsWith (mark : List Char) (line : String) : Bool :=
  mark.isPrefixOf line.toList

section Marks

variable {mark cs before : List Char}

/-- A needle whose first character does not stand in some characters cannot start there. -/
theorem occurrences_append_of_not_mem {c : Char} (h : c ∉ before) :
    occurrences (c :: mark) (before ++ cs) = occurrences (c :: mark) cs := by
  induction before with
  | nil => rfl
  | cons d before ih =>
    have other : c ≠ d := fun same => h (same ▸ List.mem_cons_self)
    have others : c ∉ before := fun mem => h (List.mem_cons_of_mem d mem)
    have elsewhere : (c :: mark).isPrefixOf (d :: (before ++ cs)) = false := by
      simp [List.isPrefixOf, other]
    rw [List.cons_append, occurrences, elsewhere, ih others]
    simp

/-- An occurrence lies on one side of a character that is not in it. -/
theorem occurrences_append_cons {c d : Char} (apart : d ∉ c :: mark) :
    occurrences (c :: mark) (before ++ d :: cs) =
      occurrences (c :: mark) before + occurrences (c :: mark) cs := by
  induction before with
  | nil =>
    have absent : c ∉ [d] := fun mem => apart (by simp [List.mem_singleton.1 mem])
    rw [List.nil_append, occurrences, Nat.zero_add]
    exact occurrences_append_of_not_mem absent
  | cons x before ih =>
    have starts : (c :: mark).isPrefixOf (x :: (before ++ d :: cs)) =
        (c :: mark).isPrefixOf (x :: before) := by
      rw [Bool.eq_iff_iff, List.isPrefixOf_iff_prefix, List.isPrefixOf_iff_prefix,
        ← List.cons_append]
      exact prefix_append_cons_iff apart
    rw [List.cons_append, occurrences, occurrences, starts, ih, Nat.add_assoc]

theorem occurrences_eq_zero_iff {c : Char} :
    occurrences (c :: mark) cs = 0 ↔ ¬ c :: mark <:+: cs := by
  induction cs with
  | nil => simp [occurrences]
  | cons d cs ih =>
    rw [occurrences, List.infix_cons_iff, not_or, ← ih, ← List.isPrefixOf_iff_prefix]
    cases (c :: mark).isPrefixOf (d :: cs) <;> simp

/-- The first line and the others: the text starts as its first line does, and each other line that
starts with the mark stands behind a line feed. -/
theorem exists_splitOn (cs : List Char) (feedless : '\n' ∉ mark) :
    ∃ first others, cs.splitOn '\n' = first :: others ∧
      mark.isPrefixOf first = mark.isPrefixOf cs ∧
      others.countP mark.isPrefixOf = occurrences ('\n' :: mark) cs := by
  -- The first line is compared together with the text, so the mark shortens along with it.
  induction cs generalizing mark with
  | nil => exact ⟨[], [], List.splitOn_nil '\n', rfl, rfl⟩
  | cons c cs ih =>
    rw [List.splitOn_eq_splitOnP, List.splitOnP_cons_eq_if_modifyHead,
      ← List.splitOn_eq_splitOnP]
    by_cases feed : c = '\n'
    · subst feed
      obtain ⟨first, others, split, starts, marked⟩ := ih feedless
      refine ⟨[], first :: others, by simp [split], ?_, ?_⟩
      · cases mark with
        | nil => rfl
        | cons d mark =>
          have other : d ≠ '\n' := fun same => feedless (same ▸ List.mem_cons_self)
          simp [List.isPrefixOf, other]
      · rw [List.countP_cons, starts, marked, occurrences, Nat.add_comm]
        simp [List.isPrefixOf]
    · have notHere : ('\n' :: mark).isPrefixOf (c :: cs) = false := by
        simp [List.isPrefixOf, Ne.symm feed]
      obtain ⟨first, others, split, -, marked⟩ := ih feedless
      refine ⟨c :: first, others, by simp [split, feed], ?_, ?_⟩
      · cases mark with
        | nil => rfl
        | cons d mark =>
          obtain ⟨first', others', split', starts, -⟩ := ih (fun mem =>
            feedless (List.mem_cons_of_mem d mem))
          obtain ⟨rfl, -⟩ := List.cons.inj (split.symm.trans split')
          simp only [List.isPrefixOf, starts]
      · rw [marked, occurrences, notHere]
        simp

/-- The carriage return that ends a line does not belong to a mark at its start. -/
theorem startsWith_withoutReturn (line : String) (returnless : '\r' ∉ mark) :
    startsWith mark (withoutReturn line) = startsWith mark line := by
  unfold withoutReturn
  by_cases returned : line.toList.getLast? = some '\r'
  · rw [if_pos returned, startsWith, startsWith, String.toList_ofList]
    obtain ⟨cs, shown⟩ := List.getLast?_eq_some_iff.1 returned
    rw [shown, List.dropLast_concat, Bool.eq_iff_iff, List.isPrefixOf_iff_prefix,
      List.isPrefixOf_iff_prefix, List.prefix_concat_iff]
    constructor
    · exact .inr
    · rintro (whole | shorter)
      · exact absurd (whole ▸ List.mem_append_right cs List.mem_cons_self) returnless
      · exact shorter
  · rw [if_neg returned]

/-- **The lines of a text that start with a mark**: its first line, if the text does, and one line
for each line feed that the mark follows. -/
theorem countP_lines (text : String) (feedless : '\n' ∉ mark) (returnless : '\r' ∉ mark) :
    ((lines text).map withoutReturn).countP (startsWith mark) =
      (if startsWith mark text then 1 else 0) + occurrences ('\n' :: mark) text.toList := by
  obtain ⟨first, others, split, starts, marked⟩ := exists_splitOn text.toList feedless
  have kept : startsWith mark ∘ withoutReturn = startsWith mark := by
    funext line
    exact startsWith_withoutReturn line returnless
  have shown : startsWith mark ∘ String.ofList = mark.isPrefixOf := by
    funext line
    rw [Function.comp_apply, startsWith, String.toList_ofList]
  rw [List.countP_map, kept, lines, List.countP_map, shown, split, List.countP_cons, marked,
    starts, startsWith, Nat.add_comm]

end Marks

end Text

end MetastoreProbe
