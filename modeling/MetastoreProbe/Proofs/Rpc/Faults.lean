import MetastoreProbe.Proofs.Rpc.Reply
import MetastoreProbe.Proofs.Wire.Faults

/-!
# Replies that break the reader down

A reply that declares a negative length for a string is not refused: the reader asks for a buffer
of that length and breaks down, and the call has no error that could be reported.  A negative size
of a container is read as none instead.

`Reply.decode_breaksDown` draws the line.  A decoder breaks down just where a string is due and has
a negative length, so that four bytes that spell a negative number do no harm anywhere else, and
what follows such a length makes no difference.  Strings that are skipped are as bad as strings that
are kept: `Reply.Opening` lists the first one of each part of a reply, which are its name, what the
server says that could not serve the call, the message of a declared exception, and a field that the
result does not have.
-/

namespace MetastoreProbe

namespace Reply

open Reader

variable {α : Type}

/-! ## What stops a reader of replies -/

/-- What is done with one field of an exception. -/
def takeMessage (t : WireType) (id : Int16) (message : String) : Reader String :=
  if id = 1 ∧ t = .string then Reader.string
  else do
    skip t
    return message

theorem readException_eq (kind : String) :
    readException kind = (do return { kind, message := ← fields takeMessage "" }) := rfl

theorem accounts_takeMessage (t : WireType) (id : Int16) (message : String) :
    Accounts (takeMessage t id message) := by
  unfold takeMessage
  split
  · exact accounts_string
  · exact (accounts_skip t).bind fun _ => Scan.accounts_pure _

theorem accounts_readException (kind : String) : Accounts (readException kind) := by
  rw [readException_eq]
  exact (accounts_fields accounts_takeMessage "").bind fun _ => Scan.accounts_pure _

/-- What is done with one field of a column. -/
def takePart (t : WireType) (id : Int16) (column : Column) : Reader Column :=
  match t, id.toInt with
  | .string, 1 => do return { column with name := ← Reader.string }
  | .string, 2 => do return { column with type := ← Reader.string }
  | .string, 3 => do return { column with comment := ← Reader.string }
  | _, _ => do
    skip t
    return column

theorem readColumn_eq : readColumn = fields takePart ⟨"", "", ""⟩ := rfl

theorem accounts_takePart (t : WireType) (id : Int16) (column : Column) :
    Accounts (takePart t id column) := by
  unfold takePart
  split
  iterate 3 exact accounts_string.bind fun _ => Scan.accounts_pure _
  exact (accounts_skip _).bind fun _ => Scan.accounts_pure _

theorem accounts_readColumn : Accounts readColumn := by
  rw [readColumn_eq]
  exact accounts_fields accounts_takePart _

theorem accounts_readColumns : Accounts readColumns :=
  accounts_type.bind fun _ => accounts_count.bind fun n => accounts_readColumn.collect n

theorem accounts_readSchemaValue (t : WireType) : Accounts (readSchemaValue t) := by
  unfold readSchemaValue
  split
  · exact accounts_readColumns
  · exact Scan.accounts_throw nofun nofun

theorem accounts_readApplicationFailure : Accounts readApplicationFailure := by
  refine accounts_fields (fun t id failure => ?_) _
  obtain ⟨kind, message⟩ := failure
  dsimp only
  split
  · exact accounts_string.bind fun _ => Scan.accounts_pure _
  · exact accounts_i32.bind fun _ => Scan.accounts_pure _
  · exact (accounts_skip t).bind fun _ => Scan.accounts_pure _

/-- What is done with one field of a result. -/
def takeField (method : Method) (readValue : WireType → Reader α) (t : WireType) (id : Int16)
    (result : Result α) : Reader (Result α) :=
  if id = 0 then do
    return { result with value := some (← readValue t) }
  else
    match method.exception? id with
    | some kind => do return { result with exception := some (← readException kind) }
    | none => do
      skip t
      return result

theorem readResult_eq (method : Method) (readValue : WireType → Reader α) :
    readResult method readValue = fields (takeField method readValue) {} := rfl

/-- An exception is read in the same way whatever type is declared for it. -/
theorem takeField_of_declared {method : Method} {id : Int16} {kind : String}
    (found : method.exception? id = some kind) (readValue : WireType → Reader α) (t : WireType)
    (result : Result α) :
    takeField method readValue t id result =
      (do return { result with exception := some (← readException kind) }) := by
  have notValue : id ≠ 0 := by
    rintro rfl
    cases found
  rw [takeField, if_neg notValue, found]

theorem accounts_takeField (method : Method) {readValue : WireType → Reader α}
    (h : ∀ t, Accounts (readValue t)) (t : WireType) (id : Int16) (result : Result α) :
    Accounts (takeField method readValue t id result) := by
  unfold takeField
  split
  · exact (h t).bind fun _ => Scan.accounts_pure _
  · split
    · exact (accounts_readException _).bind fun _ => Scan.accounts_pure _
    · exact (accounts_skip t).bind fun _ => Scan.accounts_pure _

theorem accounts_readResult (method : Method) {readValue : WireType → Reader α}
    (h : ∀ t, Accounts (readValue t)) : Accounts (readResult method readValue) := by
  rw [readResult_eq]
  exact accounts_fields (accounts_takeField method h) _

/-- A whole message accounts for its negative lengths, and may say that the server could not serve
the call. -/
abbrev AccountsForLengths (p : Reader α) : Prop :=
  Scan.Accounts .negativeLength IsNegativeLength (fun _ => False) p

theorem accountsForLengths {p : Reader α} (h : Accounts p) : AccountsForLengths p :=
  h.mono fun _ => False.elim

theorem accounts_read (method : Method) (sequence : Int32) {readValue : WireType → Reader α}
    (h : ∀ t, Accounts (readValue t)) : AccountsForLengths (read method sequence readValue) := by
  refine (accountsForLengths accounts_messageHead).bind fun head => ?_
  split
  · exact (accountsForLengths accounts_readApplicationFailure).bind fun _ =>
      Scan.accounts_throw nofun nofun
  · exact Scan.accounts_throw nofun nofun
  · exact Scan.accounts_throw nofun nofun
  · split
    · exact Scan.accounts_throw nofun nofun
    · split
      · exact Scan.accounts_throw nofun nofun
      · refine (accountsForLengths (accounts_readResult method h)).bind fun result => ?_
        cases result.exception <;> exact Scan.accounts_pure _

theorem accounts_readVoid (method : Method) (sequence : Int32) :
    AccountsForLengths (readVoid method sequence) := by
  refine (accounts_read method sequence accounts_skip).bind fun reply => ?_
  cases reply <;> exact Scan.accounts_pure _

theorem accounts_readSchema (sequence : Int32) : AccountsForLengths (readSchema sequence) := by
  refine (accounts_read .getSchema sequence accounts_readSchemaValue).bind fun reply => ?_
  match reply with
  | .exception e => exact Scan.accounts_pure _
  | .value (some columns) => exact Scan.accounts_pure _
  | .value none => exact Scan.accounts_throw nofun nofun

/-! ## Breaking down -/

/-- Decoding broke the client down, instead of giving a reply or an error. -/
def BreaksDown : Except DecodeFault α → Prop
  | .ok _ => False
  | .error fault => fault.toError = .breakdown

/-- A negative length is the one fault that has no error. -/
theorem toError_eq_breakdown_iff {fault : DecodeFault} :
    fault.toError = .breakdown ↔ fault = .negativeLength := by
  cases fault <;> simp [DecodeFault.toError, DecodeFault.failure?, Error.ofRpcFailure]

theorem breaksDown_iff {result : Except DecodeFault α} :
    BreaksDown result ↔ result = .error .negativeLength := by
  cases result with
  | ok a => simp [BreaksDown]
  | error fault => simp [BreaksDown, toError_eq_breakdown_iff]

/-- **A reader breaks down just where a string is due and has a negative length.** -/
theorem breaksDown_valueOf_iff {p : Reader α} (h : AccountsForLengths p) (bytes : Bytes) :
    BreaksDown (p.valueOf bytes) ↔
      ∃ before length rest, bytes = before ++ (length ++ rest) ∧ IsNegativeLength length ∧
        StringDue p before := by
  rw [breaksDown_iff, Scan.valueOf_eq_error_iff]
  constructor
  · rintro ⟨rest, failed⟩
    obtain ⟨before, length, split, negative, due⟩ := (h bytes).stopped failed
    exact ⟨before, length, rest, split, negative, due⟩
  · rintro ⟨before, length, rest, rfl, negative, due⟩
    exact ⟨rest, due length rest negative⟩

/-! ## Where a string is due -/

/-- The bytes of a reply up to the first string of one of its parts. -/
inductive Opening (method : Method) (sequence : Int32) : Bytes → Prop
  /-- The name that any message has. -/
  | name (version : UInt8) (kind : MessageKind) :
    Opening method sequence [0x80, 0x01, version, kind.code]
  /-- What the server says if it could not serve the call. -/
  | failure {name : String} (short : (Utf8.encode name).length < WireValue.sizeLimit)
    (number : Int32) :
    Opening method sequence
      (Writer.messageHead .exception name number ++ (WireType.string.code :: Writer.i16 1))
  /-- The message of a declared exception. -/
  | exception {id : Int16} {kind : String} (declared : method.exception? id = some kind) :
    Opening method sequence
      (Writer.messageHead .reply method.name sequence ++
        (WireType.struct.code :: (Writer.i16 id ++ (WireType.string.code :: Writer.i16 1))))
  /-- A field that the result does not have. -/
  | skipped {id : Int16} (notValue : id ≠ 0) (undeclared : method.exception? id = none) :
    Opening method sequence
      (Writer.messageHead .reply method.name sequence ++ (WireType.string.code :: Writer.i16 id))

/-- A struct cannot be read where its first field cannot. -/
theorem fields_of_error {σ : Type} {step : WireType → Int16 → σ → Reader σ} {s : σ} {t : WireType}
    {id : Int16} {input rest : Bytes} {e : DecodeFault} (more : t ≠ .stop)
    (h : step t id s input = .error e rest) :
    fields step s (t.code :: (Writer.i16 id ++ input)) = .error e rest := by
  refine Scan.iterate_of_error ?_
  rw [Scan.bind_apply_of_ok (fieldHead_cons more id input)]
  exact Scan.bind_apply_of_error h

section Due

variable {method : Method} {sequence : Int32} {length : Bytes}

theorem messageHead_of_negative (negative : IsNegativeLength length) (version : UInt8)
    (kind : MessageKind) (rest : Bytes) :
    messageHead ([0x80, 0x01, version, kind.code] ++ (length ++ rest)) =
      .error .negativeLength rest := by
  have opened : bytes 4 ([0x80, 0x01, version, kind.code] ++ (length ++ rest)) =
      .ok [0x80, 0x01, version, kind.code] (length ++ rest) := by
    have four : [0x80, 0x01, version, kind.code].length = 4 := rfl
    exact bytes_append four _
  rw [messageHead, Scan.bind_apply_of_ok opened]
  simp only [ne_eq, not_true_eq_false, or_self, if_false, MessageKind.ofCode?_code]
  exact Scan.bind_apply_of_error (string_of_isNegativeLength negative rest)

/-- **A string is due behind each opening**, whatever the values of the method are. -/
theorem stringDue_of_opening {before : Bytes} (opening : Opening method sequence before)
    (readValue : WireType → Reader α) : StringDue (read method sequence readValue) before := by
  intro length rest negative
  have string := string_of_isNegativeLength negative rest
  have own := method.name_short
  unfold read
  -- What stands before the string is read whole; the string is the first thing that is not.
  cases opening with
  | name version kind =>
    exact Scan.bind_apply_of_error (messageHead_of_negative negative version kind rest)
  | @failure name short number =>
    have message : readApplicationFailure
        (WireType.string.code :: (Writer.i16 1 ++ (length ++ rest))) =
          .error .negativeLength rest :=
      fields_of_error nofun (Scan.bind_apply_of_error string)
    rw [List.append_assoc, Scan.bind_apply_of_ok (messageHead_append .exception short number _)]
    exact Scan.bind_apply_of_error message
  | @exception id kind declared =>
    have message : readException kind
        (WireType.string.code :: (Writer.i16 1 ++ (length ++ rest))) =
          .error .negativeLength rest :=
      Scan.bind_apply_of_error (fields_of_error nofun string)
    have result : readResult method readValue (WireType.struct.code :: (Writer.i16 id ++
        (WireType.string.code :: (Writer.i16 1 ++ (length ++ rest))))) =
          .error .negativeLength rest := by
      have notValue : id ≠ 0 := by
        rintro rfl
        cases declared
      refine fields_of_error nofun ?_
      rw [if_neg notValue, declared]
      exact Scan.bind_apply_of_error message
    have head := messageHead_append .reply own sequence (WireType.struct.code :: (Writer.i16 id ++
      (WireType.string.code :: (Writer.i16 1 ++ (length ++ rest)))))
    simp only [List.append_assoc, List.cons_append]
    rw [Scan.bind_apply_of_ok head]
    simp only [ne_eq, not_true_eq_false, if_false]
    exact Scan.bind_apply_of_error result
  | @skipped id notValue undeclared =>
    have result : readResult method readValue
        (WireType.string.code :: (Writer.i16 id ++ (length ++ rest))) =
          .error .negativeLength rest := by
      have skipped : skip .string (length ++ rest) = .error .negativeLength rest :=
        Scan.discard_apply_of_error string
      refine fields_of_error nofun ?_
      rw [if_neg notValue, undeclared]
      exact Scan.bind_apply_of_error skipped
    have head := messageHead_append .reply own sequence
      (WireType.string.code :: (Writer.i16 id ++ (length ++ rest)))
    rw [List.append_assoc]
    refine (Scan.bind_apply_of_ok head).trans ?_
    simp only [ne_eq, not_true_eq_false, if_false]
    exact Scan.bind_apply_of_error result

end Due

/-! ## The line between the two -/

/-- **Decoding breaks down just where a string is due and has a negative length.**  On all other
bytes it gives a reply or an error.  Strings are due behind each opening of a reply. -/
theorem decode_breaksDown (method : Method) (sequence : Int32) :
    (∀ bytes, BreaksDown (decodeVoid method sequence bytes) ↔
        ∃ before length rest, bytes = before ++ (length ++ rest) ∧ IsNegativeLength length ∧
          StringDue (readVoid method sequence) before) ∧
      (∀ bytes, BreaksDown (decodeSchema sequence bytes) ↔
        ∃ before length rest, bytes = before ++ (length ++ rest) ∧ IsNegativeLength length ∧
          StringDue (readSchema sequence) before) ∧
      (∀ before, Opening method sequence before → StringDue (readVoid method sequence) before) ∧
      ∀ before, Opening .getSchema sequence before → StringDue (readSchema sequence) before := by
  refine ⟨?_, ?_, ?_, ?_⟩
  · exact breaksDown_valueOf_iff (accounts_readVoid method sequence)
  · exact breaksDown_valueOf_iff (accounts_readSchema sequence)
  · intro before opening length rest negative
    exact Scan.bind_apply_of_error (stringDue_of_opening opening skip length rest negative)
  · intro before opening length rest negative
    exact Scan.bind_apply_of_error
      (stringDue_of_opening opening readSchemaValue length rest negative)

/-- Eight bytes are enough: a reply whose name has the length -1. -/
theorem breaksDown_of_nameless :
    BreaksDown (decodeVoid .createDatabase 1
      [0x80, 0x01, 0x00, 0x02, 0xFF, 0xFF, 0xFF, 0xFF]) := by
  have failed : decodeVoid .createDatabase 1
      [0x80, 0x01, 0x00, 0x02, 0xFF, 0xFF, 0xFF, 0xFF] = .error .negativeLength := by
    rfl
  exact breaksDown_iff.2 failed

end Reply

end MetastoreProbe
