import MetastoreProbe.Proofs.Client.Exchange
import MetastoreProbe.Proofs.Client.Transports

/-!
# Errors that tell of an existing object

That an object exists already is a condition that the checks expect, so that a client reports it as
an outcome.  An error that tells the same (`Error.tellsExisting`) would get past the checks.

The client over frames has no such error: it sorts exceptions by their kinds, and all kinds are
names that it knows.  The client over a plain connection names an exception for what its text tells,
and however the text is written, the server's message can be found in it (`ExceptionTexts`).
`Client.callFailsExisting_iff` says which messages make it report an error that it should not have:
those of other exceptions that have the name in them (`Delivery.Misleads`).
-/

namespace MetastoreProbe

variable {σ α : Type}

/-- The error tells that an object exists already. -/
def Error.tellsExisting : Error → Bool
  | .metastore (.alreadyExists _) => true
  | .metastore (.exception _ kind _) => MetastoreError.isAlreadyExistsKind kind
  | _ => false

/-- The answer is an error that tells that an object exists already. -/
def FailsExisting : Except Error α → Prop
  | .ok _ => False
  | .error e => e.tellsExisting = true

/-- The call fails with an error that tells that an object exists already. -/
def Client.CallFailsExisting (client : Client σ) (s : σ) : Call → Prop
  | .createDatabase name => FailsExisting (answerOf (client.createDatabase name s))
  | .createTable table => FailsExisting (answerOf (client.createTable table s))
  | .getSchema database table => FailsExisting (answerOf (client.getSchema database table s))
  | .close => FailsExisting (answerOf (client.close s))

open Client (answerOf)

/-! ## Over frames -/

theorem not_failsExisting_error {e : Error} (other : e.tellsExisting = false) :
    ¬ FailsExisting (.error e : Except Error α) := by
  simp [FailsExisting, other]

/-- An operation that fails with no such error does not fail so. -/
theorem FailsOnly.not_failsExisting {operation : EStateM Error σ α}
    (fails : FailsOnly (fun e => e.tellsExisting = false) operation) (s : σ) :
    ¬ FailsExisting (answerOf (operation s)) := by
  cases h : operation s with
  | ok a s' => exact id
  | error e s' => exact not_failsExisting_error (fails s e s' h)

/-- What is wrong with a connection tells of no object. -/
theorem Error.OfConnection.tellsExisting {e : Error} (h : e.OfConnection) :
    e.tellsExisting = false := by
  unfold OfConnection at h
  split at h
  · rfl
  · rfl
  · rfl
  · cases h

/-! Exceptions have the kinds that their methods declare. -/

namespace Reply

open Reader

variable {method : Method} {sequence : Int32} {readValue : WireType → Reader α}

theorem kind_mem_of_exception? {id : Int16} {kind : String}
    (found : method.exception? id = some kind) : kind ∈ method.exceptions := by
  unfold Method.exception? at found
  split at found
  · exact List.mem_of_getElem? found
  · cases found

/-- Taking a field leaves a declared exception, or the one that was there. -/
theorem kind_mem_of_takeField {t : WireType} {id : Int16} {result result' : Result α}
    {input rest : Bytes} (taken : takeField method readValue t id result input = .ok result' rest)
    (declared : ∀ e ∈ result.exception, e.kind ∈ method.exceptions) :
    ∀ e ∈ result'.exception, e.kind ∈ method.exceptions := by
  unfold takeField at taken
  split at taken
  next value =>
    obtain ⟨a, middle, -, ended⟩ := Scan.bind_eq_ok_iff.1 taken
    cases ended
    exact declared
  next =>
    cases found : method.exception? id with
    | some kind =>
      rw [found] at taken
      obtain ⟨e, middle, read, ended⟩ := Scan.bind_eq_ok_iff.1 taken
      cases ended
      intro e' own
      cases own
      rw [kind_of_readException read]
      exact kind_mem_of_exception? found
    | none =>
      rw [found] at taken
      obtain ⟨_, middle, -, ended⟩ := Scan.bind_eq_ok_iff.1 taken
      cases ended
      exact declared

theorem kind_mem_of_takesFields {result result' : Result α} {input rest : Bytes}
    (takes : TakesFields (takeField method readValue) result input result' rest)
    (declared : ∀ e ∈ result.exception, e.kind ∈ method.exceptions) :
    ∀ e ∈ result'.exception, e.kind ∈ method.exceptions := by
  induction takes with
  | stop head => exact declared
  | field head value more ih => exact ih (kind_mem_of_takeField value declared)

/-- The exception in the reply with a schema is one that the method declares. -/
theorem kind_mem_of_decodeSchema {bytes : Bytes} {e : RemoteException}
    (decoded : decodeSchema sequence bytes = .ok (.exception e)) :
    e.kind ∈ Method.getSchema.exceptions := by
  obtain ⟨rest, decoded⟩ := Scan.valueOf_eq_ok_iff.1 decoded
  obtain ⟨reply, middle, read, finished⟩ := Scan.bind_eq_ok_iff.1 decoded
  obtain ⟨body, result, -, fields, rfl⟩ := read_eq_ok_iff.1 read
  have declared := kind_mem_of_takesFields (takesFields_of_ok fields) nofun
  unfold Result.answer at finished
  cases found : result.exception with
  | some thrown =>
    rw [found] at finished
    cases finished
    exact declared e found
  | none =>
    rw [found] at finished
    cases given : result.value <;> rw [given] at finished <;> cases finished

end Reply

namespace SaslClient

/-- A fault of a reply is a failure of the call. -/
theorem tellsExisting_toError (fault : DecodeFault) : fault.toError.tellsExisting = false := by
  cases fault with
  | application kind message =>
    have other : MetastoreError.isAlreadyExistsKind "TApplicationException" = false := by decide
    exact other
  | _ => rfl

theorem tellsExisting_of_createResult {method : Method} {sequence : Int32} {reply : Bytes}
    (e : Error) (failed : createResult method sequence reply = .error e) :
    e.tellsExisting = false := by
  obtain ⟨fault, rfl⟩ | ⟨thrown, other, rfl⟩ := error_of_createResult failed
  · exact tellsExisting_toError fault
  · exact other

theorem tellsExisting_of_schemaResult {sequence : Int32} {reply : Bytes} (e : Error)
    (failed : schemaResult sequence reply = .error e) : e.tellsExisting = false := by
  have other : ∀ kind ∈ Method.getSchema.exceptions,
      MetastoreError.isAlreadyExistsKind kind = false := by decide
  obtain ⟨fault, rfl⟩ | ⟨thrown, decoded, rfl⟩ := error_of_schemaResult failed
  · exact tellsExisting_toError fault
  · exact other _ (Reply.kind_mem_of_decodeSchema decoded)

/-- **Over frames, no call fails with an error that tells of an existing object**, whatever comes
in. -/
theorem not_callFailsExisting (now : Int32) (c : SaslClient) (call : Call) :
    ¬ (client now).CallFailsExisting c call := by
  have number : FailsOnly (fun e => e.tellsExisting = false) number := by
    intro c e c' failed
    cases failed
  have exchange (request : Bytes) := (failsOnly_exchange request).mono fun _ => (·.tellsExisting)
  cases call with
  | createDatabase name | createTable table =>
    refine (number.bind fun sequence => (exchange _).bind fun reply => ?_).not_failsExisting c
    exact failsOnly_result tellsExisting_of_createResult
  | getSchema database table =>
    refine (number.bind fun sequence => (exchange _).bind fun reply => ?_).not_failsExisting c
    exact failsOnly_result tellsExisting_of_schemaResult
  | close =>
    have close : FailsOnly (fun e => e.tellsExisting = false) close := by
      intro c e c' failed
      unfold SaslClient.close at failed
      split at failed
      · cases failed
      · split at failed <;> cases failed
    exact close.not_failsExisting c

end SaslClient

/-! ## Over a plain connection -/

namespace Delivery

variable {method : Method}

/-- The delivery is an exception, but not that the object exists already, and its message has the
name of that one in it. -/
def Misleads : Delivery method α → Prop
  | .exception slot (some message) =>
    method.exceptions.get slot ≠ "AlreadyExistsException" ∧
      Text.contains message "AlreadyExistsException" = true
  | .exception _ none | .value _ | .failure _ => False

/-- An exception of another kind misleads just when its text names the one for an existing
object. -/
theorem misleads_exception_iff (exceptions : ExceptionTexts) {slot : Fin method.exceptions.length}
    {message : Option String} (other : method.exceptions.get slot ≠ "AlreadyExistsException") :
    (exception slot message : Delivery method α).Misleads ↔
      MetastoreError.isAlreadyExistsKind (exceptions.text method slot message) = true := by
  rw [exceptions.names_existing_iff, or_iff_right other]
  cases message with
  | none => simp [Misleads]
  | some text =>
    exact ⟨fun ⟨_, named⟩ => ⟨text, rfl, named⟩, fun ⟨_, rfl, named⟩ => ⟨other, named⟩⟩

/-- That the object exists already does not mislead. -/
theorem not_misleads_exception {slot : Fin method.exceptions.length} {message : Option String}
    (existing : method.exceptions.get slot = "AlreadyExistsException") :
    ¬ (exception slot message : Delivery method α).Misleads := by
  cases message with
  | none => exact id
  | some text => exact fun ⟨other, _⟩ => other existing

end Delivery

namespace PlainClient

/-- The error for an exception tells of an existing object just when the exception's text does. -/
theorem tellsExisting_remoteError (method : Method) (text : String) :
    (remoteError method text).tellsExisting = MetastoreError.isAlreadyExistsKind text := by
  have named : MetastoreError.isAlreadyExistsKind "AlreadyExistsException" = true := by decide
  have unnamed : MetastoreError.isAlreadyExistsKind "ThriftException" = false := by decide
  unfold remoteError
  cases h : MetastoreError.isAlreadyExistsKind text with
  | true => exact named
  | false => exact unnamed

/-- A call of an open client comes to what its delivery does. -/
theorem failsExisting_call_iff {δ : Type} (p : PlainClient σ) (send : StateM σ δ)
    (outcome : δ → Except Error α) :
    FailsExisting (answerOf (call send outcome p)) ↔
      p.closed = false ∧ FailsExisting (outcome (send p.link).1) := by
  cases isOpen : p.closed with
  | true => simp [call, isOpen, Client.answerOf, FailsExisting, Error.tellsExisting]
  | false => simp [Creation.answerOf_call isOpen]

/-- A creation fails so just when its delivery misleads. -/
theorem failsExisting_createOutcome_iff {method : Method} (creates : method ≠ .getSchema)
    (exceptions : ExceptionTexts) (delivery : Delivery method Unit) :
    FailsExisting (createOutcome exceptions method delivery) ↔ delivery.Misleads := by
  cases delivery with
  | value u => rfl
  | failure text =>
    dsimp only [createOutcome]
    split
    · rfl
    · exact iff_of_false (not_failsExisting_error rfl) id
  | exception slot message =>
    have first : slot.val = 0 ↔ method.exceptions.get slot = "AlreadyExistsException" := by
      cases method with
      | getSchema => exact absurd rfl creates
      | createDatabase | createTable => revert slot; decide
    dsimp only [createOutcome]
    split
    next existing => exact iff_of_false id (Delivery.not_misleads_exception (first.1 existing))
    next other =>
      rw [Delivery.misleads_exception_iff exceptions (fun same => other (first.2 same)),
        ← tellsExisting_remoteError method]
      exact Iff.rfl

theorem failsExisting_schemaOutcome_iff (exceptions : ExceptionTexts)
    (delivery : Delivery .getSchema (List FieldRecord)) :
    FailsExisting (schemaOutcome exceptions delivery) ↔ delivery.Misleads := by
  cases delivery with
  | value fields => rfl
  | failure text => exact iff_of_false (not_failsExisting_error rfl) id
  | exception slot message =>
    have other : Method.getSchema.exceptions.get slot ≠ "AlreadyExistsException" := by
      revert slot
      decide
    rw [Delivery.misleads_exception_iff exceptions other, ← tellsExisting_remoteError .getSchema]
    exact Iff.rfl

end PlainClient

/-- What the link delivers for a call misleads. -/
def PlainLink.Misleads (link : PlainLink σ) (now : Int32) (s : σ) : Call → Prop
  | .createDatabase name =>
    (link.createDatabase (.struct [(1, .struct [(1, .string name)])]) s).1.Misleads
  | .createTable t => (link.createTable (.struct [(1, table t now)]) s).1.Misleads
  | .getSchema database table =>
    (link.getSchema (.struct [(1, .string database), (2, .string table)]) s).1.Misleads
  | .close => False

/-! ## Both transports -/

namespace Client

/-- **An existing object as an error.**  Over frames, no call fails with an error that tells that an
object exists already.  Over a plain connection, a call of an open client does just when what is
delivered is an exception of another kind whose message has the name of that one in it. -/
theorem callFailsExisting_iff (link : PlainLink σ) (now : Int32) :
    (∀ (c : SaslClient) (call : Call), ¬ (SaslClient.client now).CallFailsExisting c call) ∧
      ∀ (p : PlainClient σ) (call : Call),
        (PlainClient.client link now).CallFailsExisting p call ↔
          p.closed = false ∧ link.Misleads now p.link call := by
  refine ⟨SaslClient.not_callFailsExisting now, fun p call => ?_⟩
  cases call with
  | createDatabase name =>
    exact (PlainClient.failsExisting_call_iff p _ _).trans
      (and_congr_right' (PlainClient.failsExisting_createOutcome_iff (by decide) _ _))
  | createTable t =>
    exact (PlainClient.failsExisting_call_iff p _ _).trans
      (and_congr_right' (PlainClient.failsExisting_createOutcome_iff (by decide) _ _))
  | getSchema database table =>
    exact (PlainClient.failsExisting_call_iff p _ _).trans
      (and_congr_right' (PlainClient.failsExisting_schemaOutcome_iff _ _))
  | close => exact iff_of_false id (fun misled => misled.2)

/-- The name in the message of an exception that a schema is refused with makes that one tell of an
existing object. -/
theorem getSchema_fails_existing :
    let slot : Fin Method.getSchema.exceptions.length := ⟨0, by decide⟩
    let link : PlainLink Unit :=
      { createDatabase := fun _ => pure (.value ())
        createTable := fun _ => pure (.value ())
        getSchema := fun _ => pure (.exception slot (some "AlreadyExistsException")) }
    let text := "O1(MetaException \x7b message: Some(\"AlreadyExistsException\") \x7d)"
    answerOf ((PlainClient.client link 0).getSchema "d" "t" { link := () }) =
        .error (.metastore (.exception "get_schema" "AlreadyExistsException" text)) ∧
      (PlainClient.client link 0).CallFailsExisting { link := () } (.getSchema "d" "t") := by
  intro slot link text
  have shown : link.exceptions.text .getSchema slot (some "AlreadyExistsException") = text := by
    decide
  have named : MetastoreError.isAlreadyExistsKind text = true := by decide
  have kind : MetastoreError.isAlreadyExistsKind "AlreadyExistsException" = true := by decide
  have fails : answerOf ((PlainClient.client link 0).getSchema "d" "t" { link := () }) =
      .error (.metastore (.exception "get_schema" "AlreadyExistsException" text)) := by
    show answerOf (PlainClient.call (link.getSchema (.struct [(1, .string "d"), (2, .string "t")]))
      (PlainClient.schemaOutcome link.exceptions) { link := () }) = _
    rw [Creation.answerOf_call rfl]
    show Except.error (PlainClient.remoteError .getSchema (link.exceptions.text .getSchema slot
      (some "AlreadyExistsException"))) = _
    rw [shown, PlainClient.remoteError, if_pos named]
    rfl
  refine ⟨fails, ?_⟩
  show FailsExisting (answerOf ((PlainClient.client link 0).getSchema "d" "t" { link := () }))
  rw [fails]
  exact kind

end Client

end MetastoreProbe
