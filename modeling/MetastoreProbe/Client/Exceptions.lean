import MetastoreProbe.Error
import MetastoreProbe.Rpc.Method
import MetastoreProbe.Text.Words

/-!
# Exceptions in logs

An exception of the metastore is shown to people who read logs by a text, and a client that looks at
the text has to take it as it is.  The text is written by the library that knows the types of the
exceptions, which is no part of this one.  So `ExceptionTexts` is any way of writing them of which
two things are known: the text names the exception for an existing object only where the kind of the
exception or its message does, and it has no line feed, because messages are quoted.

`ExceptionTexts.debug` is such a way, the one for types whose names are those of the kinds.
-/

namespace MetastoreProbe

/-- A way of writing exceptions for people who read logs. -/
structure ExceptionTexts where
  /-- The text of the exception that a method declares in a slot, counted from 0. -/
  text : (method : Method) → Fin method.exceptions.length → (message : Option String) → String
  /-- Quoting a message hides no name in it, and neither do the words around it make one up. -/
  names_existing_iff (method : Method) (slot : Fin method.exceptions.length)
    (message : Option String) :
    MetastoreError.isAlreadyExistsKind (text method slot message) = true ↔
      method.exceptions.get slot = "AlreadyExistsException" ∨
        ∃ told ∈ message, Text.contains told "AlreadyExistsException" = true
  /-- Line feeds in a message are escaped. -/
  lineFeed_not_mem (method : Method) (slot : Fin method.exceptions.length)
    (message : Option String) : '\n' ∉ (text method slot message).toList

namespace ExceptionTexts

variable {method : Method}

/-! ## Exceptions as their types show them -/

/-- The variant of the exception, its type, and its message in quotes. -/
def debugText (method : Method) (slot : Fin method.exceptions.length) (message : Option String) :
    String :=
  let shown := match message with
    | some text => s!"Some({Text.quoted text})"
    | none => "None"
  s!"O{slot.val + 1}({method.exceptions.get slot} " ++ "\x7b message: " ++ shown ++ " \x7d)"

/-- What stands in front of a message. -/
def debugHead (slot : Fin method.exceptions.length) : String :=
  s!"O{slot.val + 1}({method.exceptions.get slot} " ++ "\x7b message: Some("

theorem toList_debugText (slot : Fin method.exceptions.length) (message : String) :
    (debugText method slot (some message)).toList =
      (debugHead slot).toList ++ (Text.quoted message).toList ++ ") \x7d)".toList := by
  simp [debugText, debugHead, toString]

theorem contains_debugHead (slot : Fin method.exceptions.length) :
    Text.contains (debugHead slot) "AlreadyExistsException" = true ↔
      method.exceptions.get slot = "AlreadyExistsException" := by
  cases method <;> revert slot <;> decide

theorem debugText_names_existing_iff (slot : Fin method.exceptions.length)
    (message : Option String) :
    MetastoreError.isAlreadyExistsKind (debugText method slot message) = true ↔
      method.exceptions.get slot = "AlreadyExistsException" ∨
        ∃ told ∈ message, Text.contains told "AlreadyExistsException" = true := by
  cases message with
  | none =>
    simp only [Option.mem_def, reduceCtorEq, false_and, exists_false, or_false]
    cases method <;> revert slot <;> decide
  | some message =>
    let after := ") \x7d)"
    have word : "AlreadyExistsException".toList = 'A' :: "lreadyExistsException".toList := rfl
    have plain : ∀ c ∈ 'A' :: "lreadyExistsException".toList, Text.escape c = [c] := by
      simp [Text.escape]
    have named := Text.occursIn_iff.symm.trans (contains_debugHead slot)
    have unnamed : ¬ "AlreadyExistsException".toList <:+: after.toList := fun found =>
      absurd (Text.occursIn_iff.2 found) (by decide)
    have parts : 'A' :: "lreadyExistsException".toList <:+:
          (debugHead slot).toList ++ (Text.quoted message).toList ++ after.toList ↔
        'A' :: "lreadyExistsException".toList <:+: (debugHead slot).toList ∨
          'A' :: "lreadyExistsException".toList <:+: message.toList ∨
            'A' :: "lreadyExistsException".toList <:+: after.toList :=
      Text.infix_quoted_iff rfl plain
    rw [← word, named, or_iff_left unnamed, ← toList_debugText] at parts
    simpa [MetastoreError.isAlreadyExistsKind, Text.contains, Text.occursIn_iff] using parts

theorem lineFeed_not_mem_debugText (slot : Fin method.exceptions.length)
    (message : Option String) : '\n' ∉ (debugText method slot message).toList := by
  cases message with
  | none => cases method <;> revert slot <;> decide
  | some message =>
    have head : '\n' ∉ (debugHead slot).toList := by
      cases method <;> revert slot <;> decide
    have after : '\n' ∉ ") \x7d)".toList := by decide
    simp only [toList_debugText, List.mem_append, not_or]
    exact ⟨⟨head, Text.lineFeed_not_mem_quoted message⟩, after⟩

/-- Exceptions as their types show them.  Of the characters in a message only those are escaped
that `Text.escape` escapes. -/
def debug : ExceptionTexts where
  text := debugText
  names_existing_iff _ := debugText_names_existing_iff
  lineFeed_not_mem _ := lineFeed_not_mem_debugText

end ExceptionTexts

end MetastoreProbe
