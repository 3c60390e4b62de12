import MetastoreProbe.Console
import MetastoreProbe.Proofs.Text.Lines

/-!
# Forged lines

Entries are not lines.  What a message says is printed as it is, so that a line feed in it starts a
new line, and what follows it there is not told from a tag.  A line that starts with the tag of
success without being the first of a success is *forged*, and a text makes one for each line feed in
it that the tag follows (`Console.forged`).

A message is put together from words of its own and from texts that it quotes.  The words have no
line feed and start with a character that is not in the tag, so that they keep the texts apart
(`Console.Parts`), and what is forged in the message is forged in the texts.
-/

namespace MetastoreProbe

namespace Console

/-! ## What a text forges -/

/-- What a line that tells success starts with. -/
def successMark : List Char := Level.success.tag.toList

/-- How many lines start with the tag of success. -/
def successLines (entries : List Entry) : Nat :=
  (lines entries).countP (Text.startsWith successMark)

/-- How many line feeds in a text the tag of success follows. -/
def forged (text : String) : Nat :=
  Text.occurrences ('\n' :: successMark) text.toList

theorem forged_eq_zero_iff {text : String} :
    forged text = 0 ↔ Text.contains text "\n[SUCCESS]" = false := by
  rw [forged, Text.occurrences_eq_zero_iff, ← Text.occursIn_iff, Bool.not_eq_true]
  rfl

theorem forged_of_lineFeed_not_mem {text : String} (feedless : '\n' ∉ text.toList) :
    forged text = 0 := by
  rw [forged, ← List.append_nil text.toList, Text.occurrences_append_of_not_mem feedless]
  rfl

/-- Nothing forged reaches over these words: they have no line feed, and the first of their
characters is not in the tag. -/
def Parts (words : String) : Prop :=
  words.toList.head?.any (fun c => c ∉ successMark) = true ∧ '\n' ∉ words.toList

instance : DecidablePred Parts := fun words =>
  inferInstanceAs
    (Decidable (words.toList.head?.any (fun c => c ∉ successMark) = true ∧ '\n' ∉ words.toList))

variable {before after words : String}

theorem forged_words_append (feedless : '\n' ∉ words.toList) :
    forged (words ++ after) = forged after := by
  rw [forged, String.toList_append, Text.occurrences_append_of_not_mem feedless, forged]

theorem Parts.forged_append_append (parts : Parts words) :
    forged (before ++ words ++ after) = forged before + forged after := by
  obtain ⟨starts, feedless⟩ := parts
  obtain ⟨c, first, apart⟩ := (Option.any_eq_true _ _).1 starts
  rw [decide_eq_true_iff] at apart
  obtain ⟨cs, split⟩ := List.head?_eq_some_iff.1 first
  rw [split, List.mem_cons, not_or] at feedless
  have outside : c ∉ '\n' :: successMark :=
    List.not_mem_cons_of_ne_of_not_mem (Ne.symm feedless.1) apart
  simp only [forged, String.toList_append, split, List.append_assoc, List.cons_append]
  rw [Text.occurrences_append_cons outside, Text.occurrences_append_of_not_mem feedless.2]

theorem Parts.forged_append (parts : Parts words) : forged (before ++ words) = forged before := by
  rw [← String.append_empty (s := before ++ words), parts.forged_append_append]
  rfl

/-! ## What some texts forge -/

/-- How many lines some texts forge. -/
def forgedBy : List String → Nat
  | [] => 0
  | text :: texts => forged text + forgedBy texts

section Texts

variable {text : String} {texts more : List String}

@[simp] theorem forgedBy_nil : forgedBy [] = 0 := rfl

@[simp] theorem forgedBy_cons : forgedBy (text :: texts) = forged text + forgedBy texts := rfl

@[simp] theorem forgedBy_append : forgedBy (texts ++ more) = forgedBy texts + forgedBy more := by
  induction texts with
  | nil => rw [List.nil_append, forgedBy_nil, Nat.zero_add]
  | cons text texts ih => rw [List.cons_append, forgedBy_cons, forgedBy_cons, ih, Nat.add_assoc]

theorem forgedBy_eq_zero_iff : forgedBy texts = 0 ↔ ∀ text ∈ texts, forged text = 0 := by
  induction texts with
  | nil => simp
  | cons text texts ih => rw [forgedBy_cons, Nat.add_eq_zero_iff, ih, List.forall_mem_cons]

theorem exists_forged (forges : forgedBy texts ≠ 0) : ∃ text ∈ texts, forged text ≠ 0 := by
  rw [Ne, forgedBy_eq_zero_iff] at forges
  simpa only [Classical.not_forall, exists_prop] using forges

theorem forgedBy_singleton : forgedBy [text] = forged text := by
  simp only [forgedBy_cons, forgedBy_nil, Nat.add_zero]

end Texts

/-! ## Entries and their lines -/

/-- How many line feeds in messages the tag of success follows. -/
def forgeries (entries : List Entry) : Nat :=
  forgedBy (entries.map Entry.message)

/-- The entry is tagged, and not as a success. -/
def Entry.IsTold (e : Entry) : Prop :=
  ∃ level, e.level = some level ∧ level ≠ .success

theorem toList_text_tagged (level : Level) (message : String) :
    (Entry.tagged level message).text.toList = (level.tag ++ " ").toList ++ message.toList := by
  have text : (Entry.tagged level message).text = level.tag ++ " " ++ message := rfl
  rw [text, String.toList_append]

/-- No tag but that of success starts as that of success does. -/
theorem startsWith_tagged (level : Level) (message : String) :
    Text.startsWith successMark (Entry.tagged level message).text = decide (level = .success) := by
  rw [Text.startsWith, toList_text_tagged]
  cases level <;> simp [successMark, Level.tag, List.isPrefixOf]

/-- A tag has no line feed, so it adds nothing to those in the message. -/
theorem forged_tagged (level : Level) (message : String) :
    forged (Entry.tagged level message).text = forged message := by
  have feedless : '\n' ∉ (level.tag ++ " ").toList := by
    cases level <;> decide
  exact forged_words_append feedless

/-- **The lines of an entry that start with the tag of success**: one if the entry is a success,
and one for each line feed in its message that the tag follows. -/
theorem countP_lines_tagged (level : Level) (message : String) :
    (Entry.tagged level message).lines.countP (Text.startsWith successMark) =
      (if level = .success then 1 else 0) + forged message := by
  have feedless : '\n' ∉ successMark := by decide
  have returnless : '\r' ∉ successMark := by decide
  rw [Entry.lines, Text.countP_lines _ feedless returnless, startsWith_tagged, ← forged,
    forged_tagged]
  simp only [decide_eq_true_eq]

theorem successLines_append (entries more : List Entry) :
    successLines (entries ++ more) = successLines entries + successLines more := by
  simp only [successLines, lines, List.flatMap_append, List.countP_append]

theorem forgeries_append (entries more : List Entry) :
    forgeries (entries ++ more) = forgeries entries + forgeries more := by
  simp only [forgeries, List.map_append, forgedBy_append]

theorem forgeries_singleton (e : Entry) : forgeries [e] = forged e.message :=
  forgedBy_singleton

/-- Entries that tell no success have forged lines only. -/
theorem successLines_of_told {entries : List Entry} (told : ∀ e ∈ entries, e.IsTold) :
    successLines entries = forgeries entries := by
  induction entries with
  | nil => rfl
  | cons e entries ih =>
    obtain ⟨⟨level, tagged, other⟩, others⟩ := List.forall_mem_cons.1 told
    have first : e.lines.countP (Text.startsWith successMark) = forged e.message := by
      obtain ⟨found, message⟩ := e
      cases tagged
      have counted := countP_lines_tagged level message
      rw [if_neg other, Nat.zero_add] at counted
      exact counted
    have rest := ih others
    unfold successLines lines at rest ⊢
    rw [List.flatMap_cons, List.countP_append, first, rest]
    simp only [forgeries, List.map_cons, forgedBy_cons]

/-- An entry that tells success has one line that does, beside the forged ones. -/
theorem successLines_success (message : String) :
    successLines [.tagged .success message] = 1 + forgeries [.tagged .success message] := by
  rw [forgeries_singleton]
  have counted := countP_lines_tagged .success message
  simpa [successLines, lines, Entry.tagged] using counted

end Console

end MetastoreProbe
