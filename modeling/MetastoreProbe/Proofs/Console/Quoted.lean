import MetastoreProbe.Error
import MetastoreProbe.Proofs.Console.Forgery
import MetastoreProbe.Proofs.Rpc.Request

/-!
# What messages quote

An error is worded with texts that were found somewhere: a path, an address, the words of a server.
`Error.quoted` lists them, for each kind of error, and `Error.forged_message` says that nothing else
in the wording can forge a line: the wording forges as many lines as the texts that it quotes.  The
text of a schema, which a mismatch quotes, is itself put together from the parts of its columns.
-/

namespace MetastoreProbe

open Console

namespace Console

variable {text other head words tail : String} {texts : List String}

/-- Numbers are written with digits. -/
theorem forged_toString (n : Nat) : forged (toString n) = 0 := by
  refine forged_of_lineFeed_not_mem fun mem => ?_
  have digits : (toString n).toList = Nat.toDigits 10 n := String.toList_ofList
  rw [digits] at mem
  exact absurd (Nat.isDigit_of_mem_toDigits (by decide) (by decide) mem) (by decide)

/-! Messages quote one text or two, with words in front of them, between them and behind them. -/

theorem forged_quoting (feedless : '\n' ∉ head.toList) :
    forged (head ++ text) = forgedBy [text] := by
  rw [forged_words_append feedless, forgedBy_singleton]

theorem forged_quoting_inside (feedless : '\n' ∉ head.toList) (parts : Parts tail) :
    forged (head ++ text ++ tail) = forgedBy [text] := by
  rw [parts.forged_append, forged_quoting feedless]

theorem forged_quoting_two (feedless : '\n' ∉ head.toList) (parts : Parts words) :
    forged (head ++ text ++ words ++ other) = forgedBy [text, other] := by
  rw [parts.forged_append_append, forged_quoting feedless]
  simp only [forgedBy_cons, forgedBy_nil, Nat.add_zero]

theorem Parts.forged_intercalate (parts : Parts words) :
    forged (words.intercalate texts) = forgedBy texts := by
  induction texts with
  | nil => rw [String.intercalate_nil]; decide
  | cons text rest ih =>
    cases rest with
    | nil => rw [String.intercalate_singleton, forgedBy_singleton]
    | cons next rest =>
      rw [String.intercalate_cons_cons, parts.forged_append_append, ih, ← forgedBy_cons]

end Console

/-! ## Schemas -/

/-- The texts of a schema. -/
def Schema.texts (s : Schema) : List String :=
  s.columns.flatMap Column.texts

theorem Column.forged_text (c : Column) : forged c.text = forgedBy c.texts := by
  show forged ("FieldSchema(name='" ++ c.name ++ "', type='" ++ c.type ++ "', comment='" ++
    c.comment ++ "')") = _
  rw [Parts.forged_append (by decide), Parts.forged_append_append (by decide),
    forged_quoting_two (by decide) (by decide)]
  simp only [texts, forgedBy_cons, forgedBy_nil, Nat.add_zero, Nat.add_assoc]

/-- The last column ends with words that keep its parts apart from the bracket that follows: the
bracket by itself could complete a tag. -/
theorem Column.exists_intercalate_text (c : Column) (columns : List Column) :
    ∃ before, ", ".intercalate ((c :: columns).map Column.text) = before ++ "')" := by
  induction columns generalizing c with
  | nil =>
    rw [List.map_cons, List.map_nil, String.intercalate_singleton]
    exact ⟨_, rfl⟩
  | cons next columns ih =>
    obtain ⟨before, ends⟩ := ih next
    rw [List.map_cons] at ends
    rw [List.map_cons, List.map_cons, String.intercalate_cons_cons, ends, ← String.append_assoc]
    exact ⟨_, rfl⟩

/-- **The text of a schema forges what the parts of its columns forge.** -/
theorem Schema.forged_text (s : Schema) : forged s.text = forgedBy s.texts := by
  have parts : forgedBy (s.columns.map Column.text) = forgedBy s.texts := by
    unfold texts
    induction s.columns with
    | nil => rfl
    | cons c columns ih =>
      rw [List.map_cons, List.flatMap_cons, forgedBy_cons, forgedBy_append, ih, c.forged_text]
  have commas : Parts ", " := by decide
  rw [← parts, ← commas.forged_intercalate]
  unfold text
  cases s.columns with
  | nil => decide
  | cons c columns =>
    obtain ⟨before, ends⟩ := c.exists_intercalate_text columns
    have bracket : "')" ++ "]" = "')]" := by decide
    rw [ends, String.append_assoc, String.append_assoc, bracket, ← String.append_assoc,
      Parts.forged_append (by decide), forged_words_append (by decide),
      Parts.forged_append (by decide)]

/-! ## Errors -/

/-- The texts that the wording of a usage fault quotes. -/
def UsageFault.quoted : UsageFault → List String
  | unknownScenario word => [word]
  | other text => [text]

theorem UsageFault.forged_message (fault : UsageFault) :
    forged fault.message = forgedBy fault.quoted := by
  cases fault with
  | unknownScenario word => exact forged_quoting_inside (by decide) (by decide)
  | other text => exact forgedBy_singleton.symm

/-- The texts that the wording of a violation quotes. -/
def Violation.quoted : Violation → List String
  | portIsZero | namespaceServiceEmpty | kerberosServiceEmpty => []
  | locationEmpty key => [key]

theorem Violation.forged_message (violation : Violation) :
    forged violation.message = forgedBy violation.quoted := by
  cases violation with
  | portIsZero | namespaceServiceEmpty | kerberosServiceEmpty => decide
  | locationEmpty key =>
    have parts : Parts " must not be empty" := by decide
    exact parts.forged_append.trans forgedBy_singleton.symm

/-- The texts that the wording of a fault in the settings quotes. -/
def ConfigFault.quoted : ConfigFault → List String
  | unknownLogFormat word => [word]
  | invalid violation => violation.quoted
  | unreadable path reason => [path, reason]
  | malformed text => [text]
  | noKerberos service => [service]
  | other text => [text]

theorem ConfigFault.forged_message (fault : ConfigFault) :
    forged fault.message = forgedBy fault.quoted := by
  cases fault with
  | unknownLogFormat | noKerberos => exact forged_quoting_inside (by decide) (by decide)
  | invalid violation => exact violation.forged_message
  | unreadable path reason => exact forged_quoting_two (by decide) (by decide)
  | malformed | other => exact forgedBy_singleton.symm

/-- The texts that the wording of a negotiation fault quotes. -/
def SaslFault.quoted : SaslFault → List String
  | unknownStatus _ | unexpectedStart | notComplete _ => []
  | rejected _ reason => [reason]
  | mechanism reason => [reason]

theorem SaslFault.forged_message (fault : SaslFault) :
    forged fault.message = forgedBy fault.quoted := by
  cases fault with
  | unknownStatus byte => exact (forged_words_append (by decide)).trans (forged_toString _)
  | rejected status reason =>
    have name : forged status.name = 0 := by cases status <;> decide
    have told : forged (rejected status reason).message = forgedBy [status.name, reason] :=
      forged_quoting_two (by decide) (by decide)
    rw [told, forgedBy_cons, name, Nat.zero_add]
    rfl
  | unexpectedStart => decide
  | notComplete status => cases status <;> decide
  | mechanism reason => exact forgedBy_singleton.symm

/-- The texts that the wording of a connection fault quotes. -/
def TransportFault.quoted : TransportFault → List String
  | wire _ => []
  | action description detail => [description, detail]
  | other text => [text]

theorem TransportFault.forged_message (fault : TransportFault) :
    forged fault.message = forgedBy fault.quoted := by
  cases fault with
  | wire kind => cases kind <;> decide
  | action description detail => exact forged_quoting_two (by decide) (by decide)
  | other text => exact forgedBy_singleton.symm

/-- The texts that the wording of a fault in received bytes quotes. -/
def ProtocolFault.quoted : ProtocolFault → List String
  | wire _ | frameTooLong _ => []
  | other text => [text]

theorem ProtocolFault.forged_message (fault : ProtocolFault) :
    forged fault.message = forgedBy fault.quoted := by
  cases fault with
  | wire kind => cases kind <;> decide
  | frameTooLong declared =>
    have told : forged (frameTooLong declared).message =
        forgedBy [toString declared, toString maxFrameLength] :=
      forged_quoting_two (by decide) (by decide)
    rw [told, forgedBy_cons, forgedBy_singleton, forged_toString, forged_toString]
    rfl
  | other text => exact forgedBy_singleton.symm

/-- The texts that the wording of a failed read or write quotes. -/
def IoFault.quoted : IoFault → List String
  | endOfFile | earlyEnd | writeLimit | shutdownFailed => []
  | other text => [text]

theorem IoFault.forged_message (fault : IoFault) :
    forged fault.message = forgedBy fault.quoted := by
  cases fault with
  | endOfFile | earlyEnd | writeLimit | shutdownFailed => decide
  | other text => exact forgedBy_singleton.symm

/-- The texts that the wording of a metastore error quotes. -/
def MetastoreError.quoted : MetastoreError → List String
  | alreadyExists text => [text]
  | connection address reason => [address, reason]
  | transport fault => fault.quoted
  | exception operation kind message => [kind, operation, message]
  | sasl fault => fault.quoted
  | protocol fault => fault.quoted
  | closed => []

theorem MetastoreError.forged_message (error : MetastoreError) :
    forged error.message = forgedBy error.quoted := by
  cases error with
  | alreadyExists text => exact forged_quoting (by decide)
  | connection address reason => exact forged_quoting_two (by decide) (by decide)
  | transport fault => exact (forged_words_append (by decide)).trans fault.forged_message
  | exception operation kind message =>
    show forged (kind ++ " during " ++ operation ++ ": " ++ message) = _
    rw [Parts.forged_append_append (by decide), Parts.forged_append_append (by decide)]
    simp only [quoted, forgedBy_cons, forgedBy_nil, Nat.add_zero, Nat.add_assoc]
  | sasl fault => exact (forged_words_append (by decide)).trans fault.forged_message
  | protocol fault => exact (forged_words_append (by decide)).trans fault.forged_message
  | closed => decide

/-- The texts that the wording of an error quotes. -/
def Error.quoted : Error → List String
  | usage fault => fault.quoted
  | config fault => fault.quoted
  | metastore error => error.quoted
  | schemaMismatch scenario actual expected => [scenario, actual, expected]
  | authorizationNotEnforced database => [database]
  | io fault => fault.quoted
  | breakdown => []

/-- **The wording of an error forges what the texts that it quotes forge.** -/
theorem Error.forged_message (e : Error) : forged e.message = forgedBy e.quoted := by
  cases e with
  | usage fault => exact (forged_words_append (by decide)).trans fault.forged_message
  | config fault => exact (forged_words_append (by decide)).trans fault.forged_message
  | metastore error => exact (forged_words_append (by decide)).trans error.forged_message
  | schemaMismatch scenario actual expected =>
    show forged ("Received " ++ scenario ++ " schema " ++ actual ++ " - expected schema: " ++
      expected) = _
    rw [Parts.forged_append_append (by decide), forged_quoting_two (by decide) (by decide)]
    simp only [quoted, forgedBy_cons, forgedBy_nil, Nat.add_zero, Nat.add_assoc]
  | authorizationNotEnforced database => exact forged_quoting_inside (by decide) (by decide)
  | io fault => exact (forged_words_append (by decide)).trans fault.forged_message
  | breakdown => decide

end MetastoreProbe
