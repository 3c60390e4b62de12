import MetastoreProbe.Proofs.Rpc.Faults
import MetastoreProbe.Proofs.Scan.Delimited

/-!
# Replies that are cut off, and bytes behind a reply

A reply says itself where it ends, by the lengths and sizes that it declares and by the stop tags of
its structs.  All readers of the binary protocol take what they need and look at nothing else, so a
decoder comes to the same on a reply whatever stands behind it, also where it refuses the reply, and
behind what made it refuse.

`Reply.decode_self_delimiting` says that nothing less will do either: on each shorter part of what
was taken, the decoder finds that the bytes end too early.  So a reply that was cut off is never
taken for another reply, nor for a refusal of another kind.
-/

namespace MetastoreProbe

/-- The fault is reported as the end of a connection. -/
def DecodeFault.IsEndOfFile (fault : DecodeFault) : Prop :=
  ∃ detail, fault.failure? = some (.transport .endOfFile detail)

theorem DecodeFault.isEndOfFile_endOfInput : endOfInput.IsEndOfFile := ⟨_, rfl⟩

/-! ## Readers -/

namespace Reader

variable {α σ : Type}

/-- The reader ends where what it takes ends. -/
abbrev SelfDelimiting (p : Reader α) : Prop :=
  Scan.SelfDelimiting DecodeFault.IsEndOfFile p

theorem selfDelimiting_byte : SelfDelimiting byte :=
  Scan.selfDelimiting_next DecodeFault.isEndOfFile_endOfInput

theorem selfDelimiting_bytes (n : Nat) : SelfDelimiting (bytes n) :=
  Scan.selfDelimiting_take DecodeFault.isEndOfFile_endOfInput n

theorem selfDelimiting_number (k : Nat) : SelfDelimiting (number k) :=
  (selfDelimiting_bytes k).bind fun _ => Scan.selfDelimiting_pure _

theorem selfDelimiting_i16 : SelfDelimiting i16 :=
  (selfDelimiting_number 2).bind fun _ => Scan.selfDelimiting_pure _

theorem selfDelimiting_i32 : SelfDelimiting i32 :=
  (selfDelimiting_number 4).bind fun _ => Scan.selfDelimiting_pure _

theorem selfDelimiting_count : SelfDelimiting count :=
  selfDelimiting_i32.bind fun _ => Scan.selfDelimiting_pure _

theorem selfDelimiting_string : SelfDelimiting string := by
  refine selfDelimiting_i32.bind fun length => ?_
  dsimp only
  split
  · exact Scan.selfDelimiting_throw _
  · refine (selfDelimiting_bytes _).bind fun spelled => ?_
    cases Utf8.decode spelled with
    | ok s => exact Scan.selfDelimiting_pure s
    | error fault => exact Scan.selfDelimiting_throw _

theorem selfDelimiting_type : SelfDelimiting type := by
  refine selfDelimiting_byte.bind fun code => ?_
  cases WireType.ofCode? code with
  | none => exact Scan.selfDelimiting_throw _
  | some t => exact Scan.selfDelimiting_pure t

theorem selfDelimiting_fieldHead : SelfDelimiting fieldHead := by
  refine selfDelimiting_type.bind fun t => ?_
  split
  · exact Scan.selfDelimiting_pure _
  · exact selfDelimiting_i16.bind fun id => Scan.selfDelimiting_pure _

theorem selfDelimiting_fields {step : WireType → Int16 → σ → Reader σ}
    (h : ∀ t id s, SelfDelimiting (step t id s)) (s : σ) : SelfDelimiting (fields step s) := by
  refine Scan.selfDelimiting_iterate (fun s => ?_) s
  refine selfDelimiting_fieldHead.bind fun head => ?_
  cases head with
  | stop => exact Scan.selfDelimiting_pure _
  | field t id => exact (h t id s).bind fun _ => Scan.selfDelimiting_pure _

theorem selfDelimiting_skipWithin (depth : Nat) (t : WireType) :
    SelfDelimiting (skipWithin depth t) := by
  induction depth generalizing t with
  | zero => exact Scan.selfDelimiting_throw _
  | succ depth ih =>
    cases t with
    | bool | i08 => exact selfDelimiting_byte.discard
    | i16 | i32 | i64 | double => exact (selfDelimiting_bytes _).discard
    | string => exact selfDelimiting_string.discard
    | struct => exact selfDelimiting_fields (fun t _ _ => ih t) ()
    | list | set =>
      exact selfDelimiting_type.bind fun t => selfDelimiting_count.bind fun n => (ih t).times n
    | map =>
      exact selfDelimiting_type.bind fun k => selfDelimiting_type.bind fun v =>
        selfDelimiting_count.bind fun n => ((ih k).bind fun _ => ih v).times n
    | stop | void | utf8 | utf16 => exact Scan.selfDelimiting_throw _

theorem selfDelimiting_skip (t : WireType) : SelfDelimiting (skip t) :=
  selfDelimiting_skipWithin _ t

theorem selfDelimiting_messageHead : SelfDelimiting messageHead := by
  refine (selfDelimiting_bytes 4).bind fun word => ?_
  split
  · split
    · exact Scan.selfDelimiting_throw _
    · split
      · exact Scan.selfDelimiting_throw _
      · exact selfDelimiting_string.bind fun _ => selfDelimiting_i32.bind fun _ =>
          Scan.selfDelimiting_pure _
  · exact Scan.selfDelimiting_throw _

end Reader

namespace Reply

open Reader

variable {α : Type}

/-! ## Replies -/

theorem selfDelimiting_readException (kind : String) : SelfDelimiting (readException kind) := by
  refine (selfDelimiting_fields (fun t id message => ?_) "").bind fun _ =>
    Scan.selfDelimiting_pure _
  split
  · exact selfDelimiting_string
  · exact (selfDelimiting_skip t).bind fun _ => Scan.selfDelimiting_pure _

theorem selfDelimiting_readColumn : SelfDelimiting readColumn := by
  refine selfDelimiting_fields (fun t id column => ?_) _
  split
  iterate 3 exact selfDelimiting_string.bind fun _ => Scan.selfDelimiting_pure _
  exact (selfDelimiting_skip _).bind fun _ => Scan.selfDelimiting_pure _

theorem selfDelimiting_readSchemaValue (t : WireType) : SelfDelimiting (readSchemaValue t) := by
  unfold readSchemaValue
  split
  · exact selfDelimiting_type.bind fun _ => selfDelimiting_count.bind fun n =>
      selfDelimiting_readColumn.collect n
  · exact Scan.selfDelimiting_throw _

theorem selfDelimiting_readApplicationFailure : SelfDelimiting readApplicationFailure := by
  refine selfDelimiting_fields (fun t id failure => ?_) _
  obtain ⟨kind, message⟩ := failure
  dsimp only
  split
  · exact selfDelimiting_string.bind fun _ => Scan.selfDelimiting_pure _
  · exact selfDelimiting_i32.bind fun _ => Scan.selfDelimiting_pure _
  · exact (selfDelimiting_skip t).bind fun _ => Scan.selfDelimiting_pure _

theorem selfDelimiting_readResult (method : Method) {readValue : WireType → Reader α}
    (h : ∀ t, SelfDelimiting (readValue t)) : SelfDelimiting (readResult method readValue) := by
  refine selfDelimiting_fields (fun t id result => ?_) _
  split
  · exact (h t).bind fun _ => Scan.selfDelimiting_pure _
  · split
    · exact (selfDelimiting_readException _).bind fun _ => Scan.selfDelimiting_pure _
    · exact (selfDelimiting_skip t).bind fun _ => Scan.selfDelimiting_pure _

theorem selfDelimiting_read (method : Method) (sequence : Int32)
    {readValue : WireType → Reader α} (h : ∀ t, SelfDelimiting (readValue t)) :
    SelfDelimiting (read method sequence readValue) := by
  refine selfDelimiting_messageHead.bind fun head => ?_
  split
  · exact selfDelimiting_readApplicationFailure.bind fun _ => Scan.selfDelimiting_throw _
  · exact Scan.selfDelimiting_throw _
  · exact Scan.selfDelimiting_throw _
  · split
    · exact Scan.selfDelimiting_throw _
    · split
      · exact Scan.selfDelimiting_throw _
      · refine (selfDelimiting_readResult method h).bind fun result => ?_
        cases result.exception <;> exact Scan.selfDelimiting_pure _

theorem selfDelimiting_readVoid (method : Method) (sequence : Int32) :
    SelfDelimiting (readVoid method sequence) := by
  refine (selfDelimiting_read method sequence selfDelimiting_skip).bind fun reply => ?_
  cases reply <;> exact Scan.selfDelimiting_pure _

theorem selfDelimiting_readSchema (sequence : Int32) : SelfDelimiting (readSchema sequence) := by
  refine (selfDelimiting_read .getSchema sequence selfDelimiting_readSchemaValue).bind
    fun reply => ?_
  match reply with
  | .exception e => exact Scan.selfDelimiting_pure _
  | .value (some columns) => exact Scan.selfDelimiting_pure _
  | .value none => exact Scan.selfDelimiting_throw _

/-! ## Bytes that end too early -/

/-- Decoding failed because the bytes end. -/
def EndsEarly : Except DecodeFault α → Prop
  | .ok _ => False
  | .error fault => fault.IsEndOfFile

theorem endsEarly_valueOf_iff {p : Reader α} {bytes : Bytes} :
    EndsEarly (p.valueOf bytes) ↔ Scan.RunsOut DecodeFault.IsEndOfFile p bytes := by
  unfold Scan.RunsOut Scan.valueOf
  cases p bytes <;> simp [EndsEarly]

/-- What a reader of replies takes is all that it needs, and no part of it is enough. -/
theorem exists_taken {p : Reader α} (h : SelfDelimiting p) {bytes : Bytes}
    (enough : ¬ EndsEarly (p.valueOf bytes)) :
    ∃ taken, bytes = taken ++ p.unread bytes ∧
      (∀ more, p.valueOf (taken ++ more) = p.valueOf bytes ∧ p.unread (taken ++ more) = more) ∧
      ∀ part, part <+: taken → part ≠ taken → EndsEarly (p.valueOf part) := by
  rw [endsEarly_valueOf_iff] at enough
  obtain ⟨taken, split, whatever, cut⟩ := h.exists_taken enough
  refine ⟨taken, split, whatever, fun part within strict => ?_⟩
  exact endsEarly_valueOf_iff.2 (cut part within strict)

/-- **Replies that are cut off are found out, and bytes behind a reply do not matter.**  Unless the
bytes end too early, a decoder takes some of them, whether it gives a reply or refuses: with
anything else behind them it does the same, and on each shorter part of them it finds that the bytes
end too early. -/
theorem decode_self_delimiting (method : Method) (sequence : Int32) (bytes : Bytes) :
    (¬ EndsEarly (decodeVoid method sequence bytes) →
      ∃ taken, bytes = taken ++ (readVoid method sequence).unread bytes ∧
        (∀ more, decodeVoid method sequence (taken ++ more) = decodeVoid method sequence bytes ∧
          (readVoid method sequence).unread (taken ++ more) = more) ∧
        ∀ part, part <+: taken → part ≠ taken → EndsEarly (decodeVoid method sequence part)) ∧
      (¬ EndsEarly (decodeSchema sequence bytes) →
        ∃ taken, bytes = taken ++ (readSchema sequence).unread bytes ∧
          (∀ more, decodeSchema sequence (taken ++ more) = decodeSchema sequence bytes ∧
            (readSchema sequence).unread (taken ++ more) = more) ∧
          ∀ part, part <+: taken → part ≠ taken → EndsEarly (decodeSchema sequence part)) :=
  ⟨exists_taken (selfDelimiting_readVoid method sequence),
    exists_taken (selfDelimiting_readSchema sequence)⟩

/-- A reply to another method is refused behind its head, and not before the head is whole. -/
theorem decode_self_delimiting_of_other_method :
    let head := Writer.messageHead .reply "get_table" 1
    ¬ EndsEarly (decodeSchema 1 head) ∧
      (∀ more, decodeSchema 1 (head ++ more) =
        .error (.wrongMethod "get_schema" "get_table")) ∧
      EndsEarly (decodeSchema 1 (head.take 20)) := by
  intro head
  have refused : readSchema 1 head = .error (.wrongMethod "get_schema" "get_table") [] := rfl
  have decoded : decodeSchema 1 head = .error (.wrongMethod "get_schema" "get_table") :=
    Scan.valueOf_eq_error_iff.2 ⟨[], refused⟩
  have enough : ¬ EndsEarly (decodeSchema 1 head) := by
    rw [decoded]
    rintro ⟨detail, told⟩
    cases told
  obtain ⟨taken, split, whatever, cut⟩ :=
    (decode_self_delimiting .getSchema 1 head).2 enough
  have left : (readSchema 1).unread head = [] := by rw [Scan.unread, refused]
  rw [left, List.append_nil] at split
  subst split
  refine ⟨enough, fun more => (whatever more).1.trans decoded, ?_⟩
  exact cut _ (List.take_prefix 20 head) (by decide)

end Reply

end MetastoreProbe
