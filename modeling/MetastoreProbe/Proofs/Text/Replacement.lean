import MetastoreProbe.Text.Words

/-!
# Replacing a word in a text

`Text.replaceFrom` looks for a word from left to right and goes on behind what it found.
`Text.Around` says which occurrences these are without the search: a text consists of parts with the
word between them, and the word does not start any earlier than where a part ends.  The text with
the word replaced has the same parts, with the other word between them
(`Text.Around.replaceFrom_eq`).

From the parts one reads off when a replacement changes nothing: just when there is only one part,
or the word is replaced by itself (`Text.replaceFrom_eq_self_iff`).
-/

namespace MetastoreProbe

namespace Text

variable {word other text part rest : List Char}

/-! ## The search -/

theorem not_infix_dropLast (nonempty : word ≠ []) : ¬ word <:+: word.dropLast := by
  intro stands
  have shorter := stands.length_le
  have some := List.length_pos_iff.2 nonempty
  rw [List.length_dropLast] at shorter
  omega

/-- An occurrence that starts within the part ends before the word behind the part does. -/
theorem prefix_of_append_dropLast (part rest : List Char) :
    part ++ word.dropLast <+: part ++ (word ++ rest) := by
  have shorter := List.dropLast_prefix word
  rw [List.prefix_append_right_inj]
  exact shorter.trans (List.prefix_append word rest)

/-- Characters that belong to an occurrence already replaced are passed over. -/
theorem replaceFrom_skip (skipped rest : List Char) :
    replaceFrom word other skipped.length (skipped ++ rest) = replaceFrom word other 0 rest := by
  induction skipped with
  | nil => rfl
  | cons c skipped ih => exact ih

/-- A word in front is replaced, and the search goes on behind it. -/
theorem replaceFrom_word_append (nonempty : word ≠ []) (rest : List Char) :
    replaceFrom word other 0 (word ++ rest) = other ++ replaceFrom word other 0 rest := by
  obtain ⟨c, cs, rfl⟩ := List.exists_cons_of_ne_nil nonempty
  have starts : (c :: cs).isPrefixOf (c :: (cs ++ rest)) = true :=
    List.isPrefixOf_iff_prefix.2 (List.prefix_append (c :: cs) rest)
  rw [List.cons_append, replaceFrom, if_pos starts, List.length_cons, Nat.add_sub_cancel,
    replaceFrom_skip]

/-- A character at which the word does not start stays. -/
theorem replaceFrom_cons {c : Char} (notHere : ¬ word <+: c :: rest) :
    replaceFrom word other 0 (c :: rest) = c :: replaceFrom word other 0 rest := by
  rw [replaceFrom, if_neg]
  rwa [List.isPrefixOf_iff_prefix]

theorem replaceFrom_of_absent (absent : ¬ word <:+: text) :
    replaceFrom word other 0 text = text := by
  induction text with
  | nil => rfl
  | cons c text ih =>
    rw [List.infix_cons_iff, not_or] at absent
    rw [replaceFrom_cons absent.1, ih absent.2]

/-- What stands in front of the first occurrence stays. -/
theorem replaceFrom_of_first (nonempty : word ≠ []) (first : ¬ word <:+: part ++ word.dropLast)
    (rest : List Char) :
    replaceFrom word other 0 (part ++ (word ++ rest)) =
      part ++ (other ++ replaceFrom word other 0 rest) := by
  induction part with
  | nil => exact replaceFrom_word_append nonempty rest
  | cons c part ih =>
    rw [List.cons_append, List.infix_cons_iff, not_or] at first
    have notHere : ¬ word <+: c :: (part ++ (word ++ rest)) := by
      intro starts
      have within : c :: (part ++ word.dropLast) <+: c :: (part ++ (word ++ rest)) :=
        prefix_of_append_dropLast (c :: part) rest
      refine first.1 (List.prefix_of_prefix_length_le starts within ?_)
      rw [List.length_cons, List.length_append, List.length_dropLast]
      omega
    rw [List.cons_append, replaceFrom_cons notHere, ih first.2]
    rfl

/-! ## The parts around a word -/

/-- The text consists of the parts with the word between them, and the occurrences of the word
between the parts are those that are found from left to right, none overlapping another. -/
inductive Around (word : List Char) : List Char → List (List Char) → Prop
  | last {text : List Char} (absent : ¬ word <:+: text) : Around word text [text]
  | occurrence {part rest : List Char} {parts : List (List Char)}
    (first : ¬ word <:+: part ++ word.dropLast) (more : Around word rest parts) :
    Around word (part ++ (word ++ rest)) (part :: parts)

namespace Around

variable {parts : List (List Char)}

theorem ne_nil (h : Around word text parts) : parts ≠ [] := by
  cases h <;> exact List.cons_ne_nil _ _

theorem eq_intercalate (h : Around word text parts) : text = word.intercalate parts := by
  induction h with
  | last => simp
  | @occurrence part rest parts _ more ih =>
    obtain ⟨next, later, rfl⟩ := List.exists_cons_of_ne_nil more.ne_nil
    rw [List.intercalate_cons_cons, ← ih, List.append_assoc]

/-- **The text with the word replaced has the same parts**, with the other word between them. -/
theorem replaceFrom_eq (nonempty : word ≠ []) (h : Around word text parts) :
    replaceFrom word other 0 text = other.intercalate parts := by
  induction h with
  | last absent => rw [replaceFrom_of_absent absent, List.intercalate_singleton]
  | @occurrence part rest parts first more ih =>
    obtain ⟨next, later, rfl⟩ := List.exists_cons_of_ne_nil more.ne_nil
    rw [replaceFrom_of_first nonempty first, ih, List.intercalate_cons_cons, List.append_assoc]

end Around

/-- A word that stands in a text has a first occurrence there. -/
theorem exists_first (nonempty : word ≠ []) (stands : word <:+: text) :
    ∃ part rest, text = part ++ (word ++ rest) ∧ ¬ word <:+: part ++ word.dropLast := by
  induction text with
  | nil => exact absurd (List.infix_nil.1 stands) nonempty
  | cons c text ih =>
    by_cases here : word <+: c :: text
    · obtain ⟨rest, split⟩ := here
      exact ⟨[], rest, split.symm, not_infix_dropLast nonempty⟩
    · obtain ⟨part, rest, rfl, first⟩ := ih ((List.infix_cons_iff.1 stands).resolve_left here)
      refine ⟨c :: part, rest, rfl, fun earlier => ?_⟩
      rcases List.infix_cons_iff.1 earlier with starts | later
      · exact here (starts.trans (prefix_of_append_dropLast (c :: part) rest))
      · exact first later

/-- **Every text has its parts around a word.** -/
theorem exists_around (nonempty : word ≠ []) (text : List Char) :
    ∃ parts, Around word text parts := by
  -- What stands behind an occurrence is shorter than the text.
  induction length : text.length using Nat.strongRecOn generalizing text with
  | ind n ih =>
    by_cases stands : word <:+: text
    · obtain ⟨part, rest, rfl, first⟩ := exists_first nonempty stands
      have some := List.length_pos_iff.2 nonempty
      simp only [List.length_append] at length
      obtain ⟨parts, more⟩ := ih rest.length (by omega) rest rfl
      exact ⟨part :: parts, .occurrence first more⟩
    · exact ⟨[text], .last stands⟩

/-! ## What stays as it is -/

/-- With a longer word between them, parts are not shorter. -/
theorem length_intercalate_le (shorter : word.length ≤ other.length) (parts : List (List Char)) :
    (word.intercalate parts).length ≤ (other.intercalate parts).length := by
  induction parts with
  | nil => simp
  | cons part parts ih =>
    cases parts with
    | nil => simp
    | cons next later =>
      simp only [List.intercalate_cons_cons, List.length_append]
      omega

/-- Parts with a word between them tell which word it is. -/
theorem intercalate_cons_cons_inj {next : List Char} {later : List (List Char)} :
    word.intercalate (part :: next :: later) = other.intercalate (part :: next :: later) ↔
      word = other := by
  refine ⟨fun same => ?_, fun same => same ▸ rfl⟩
  simp only [List.intercalate_cons_cons, List.append_assoc, List.append_cancel_left_eq] at same
  have lengths := congrArg List.length same
  simp only [List.length_append] at lengths
  have equal : word.length = other.length := by
    rcases Nat.le_total word.length other.length with shorter | longer
    · have bound := length_intercalate_le shorter (next :: later)
      omega
    · have bound := length_intercalate_le longer (next :: later)
      omega
  exact (List.append_inj same equal).1

/-- **A replacement changes nothing just when the word does not stand in the text**, or is replaced
by itself. -/
theorem replaceFrom_eq_self_iff (nonempty : word ≠ []) :
    replaceFrom word other 0 text = text ↔ word = other ∨ ¬ word <:+: text := by
  obtain ⟨parts, around⟩ := exists_around nonempty text
  cases around with
  | last absent => simp [replaceFrom_of_absent absent, absent]
  | @occurrence part rest parts first more =>
    have stands : word <:+: part ++ (word ++ rest) := ⟨part, rest, by simp⟩
    obtain ⟨next, later, rfl⟩ := List.exists_cons_of_ne_nil more.ne_nil
    have around := Around.occurrence first more
    have same : other.intercalate (part :: next :: later) = part ++ (word ++ rest) ↔
        other = word := by
      rw [around.eq_intercalate, intercalate_cons_cons_inj]
    rw [around.replaceFrom_eq nonempty, same]
    simp [stands, eq_comm]

/-! ## Texts as strings -/

section Strings

variable {pattern replacement : String}

theorem toList_ne_nil (nonempty : pattern ≠ "") : pattern.toList ≠ [] := by
  rwa [Ne, String.toList_eq_nil_iff]

theorem replaceAll_append (nonempty : pattern ≠ "") (rest : String) :
    replaceAll (pattern ++ rest) pattern replacement =
      replacement ++ replaceAll rest pattern replacement := by
  rw [replaceAll, String.toList_append, replaceFrom_word_append (toList_ne_nil nonempty),
    String.ofList_append, String.ofList_toList]
  rfl

theorem replaceAll_eq_self_iff (nonempty : pattern ≠ "") {text : String} :
    replaceAll text pattern replacement = text ↔
      pattern = replacement ∨ contains text pattern = false := by
  rw [← String.toList_inj, replaceAll, String.toList_ofList,
    replaceFrom_eq_self_iff (toList_ne_nil nonempty), String.toList_inj, contains,
    ← Bool.not_eq_true, occursIn_iff]

end Strings

end Text

end MetastoreProbe
