import MetastoreProbe.Client.Plain
import MetastoreProbe.Proofs.Client.Exchange

/-!
# Errors of calls

What goes wrong in a call goes wrong with the metastore or on the way to it (`Error.OfCall`).
Errors that blame the user, and those in which a check reports what it found, are none of these.
Both clients keep to that (`Client.CallsFailOnly`), so that whoever makes their calls can tell its
own errors from theirs.  Over a plain connection the library has no bytes to read, so that its
client does not break down either.
-/

namespace MetastoreProbe

variable {σ α : Type}

/-- The error comes from the metastore or the connection, or the client broke down. -/
def Error.OfCall : Error → Prop
  | .metastore _ | .io _ | .breakdown => True
  | .usage _ | .config _ | .schemaMismatch _ _ _ | .authorizationNotEnforced _ => False

/-- The error is reported by the metastore, or tells of the way to it. -/
def Error.IsMetastore (e : Error) : Prop :=
  ∃ error, e = .metastore error

theorem Error.IsMetastore.ofCall {e : Error} (h : e.IsMetastore) : e.OfCall := by
  obtain ⟨error, rfl⟩ := h
  trivial

/-- All errors of the client's calls satisfy `P`. -/
structure Client.CallsFailOnly (client : Client σ) (P : Error → Prop) : Prop where
  createDatabase (name : String) : FailsOnly P (client.createDatabase name)
  createTable (table : Table) : FailsOnly P (client.createTable table)
  getSchema (database table : String) : FailsOnly P (client.getSchema database table)

theorem Client.CallsFailOnly.mono {client : Client σ} {P Q : Error → Prop}
    (h : client.CallsFailOnly P) (weaker : ∀ e, P e → Q e) : client.CallsFailOnly Q where
  createDatabase name := (h.createDatabase name).mono weaker
  createTable table := (h.createTable table).mono weaker
  getSchema database table := (h.getSchema database table).mono weaker

theorem Error.OfConnection.ofCall {e : Error} (h : e.OfConnection) : e.OfCall := by
  unfold OfConnection at h
  split at h
  · trivial
  · trivial
  · trivial
  · exact h.elim

/-! ## Over a plain connection -/

namespace PlainClient

theorem failsOnly_call {δ : Type} {send : StateM σ δ} {outcome : δ → Except Error α}
    (fails : ∀ delivery e, outcome delivery = .error e → e.IsMetastore) :
    FailsOnly Error.IsMetastore (call send outcome) := by
  intro c e c' failed
  unfold call at failed
  by_cases closed : c.closed
  · rw [if_pos closed] at failed
    cases failed
    exact ⟨_, rfl⟩
  · rw [if_neg closed] at failed
    generalize send c.link = sent at failed
    obtain ⟨delivery, link⟩ := sent
    cases told : outcome delivery with
    | ok a => simp [told] at failed
    | error e' =>
      simp only [told] at failed
      cases failed
      exact fails delivery e told

theorem isMetastore_of_createOutcome {exceptions : ExceptionTexts} {method : Method}
    (delivery : Delivery method Unit) (e : Error)
    (failed : createOutcome exceptions method delivery = .error e) : e.IsMetastore := by
  unfold createOutcome at failed
  split at failed
  · cases failed
  · split at failed
    · cases failed
    · cases failed
      exact ⟨_, rfl⟩
  · split at failed
    · cases failed
    · cases failed
      exact ⟨_, rfl⟩

theorem isMetastore_of_schemaOutcome {exceptions : ExceptionTexts}
    (delivery : Delivery .getSchema (List FieldRecord)) (e : Error)
    (failed : schemaOutcome exceptions delivery = .error e) : e.IsMetastore := by
  cases delivery with
  | value fields => cases failed
  | exception | failure =>
    cases failed
    exact ⟨_, rfl⟩

theorem callsFailOnly (link : PlainLink σ) (now : Int32) :
    (client link now).CallsFailOnly Error.IsMetastore where
  createDatabase _ := failsOnly_call isMetastore_of_createOutcome
  createTable _ := failsOnly_call isMetastore_of_createOutcome
  getSchema _ _ := failsOnly_call isMetastore_of_schemaOutcome

end PlainClient

/-! ## Over frames -/

namespace SaslClient

theorem ofCall_toError (fault : DecodeFault) : fault.toError.OfCall := by
  cases fault <;> trivial

theorem ofCall_of_createResult {method : Method} {sequence : Int32} {reply : Bytes}
    (e : Error) (failed : createResult method sequence reply = .error e) : e.OfCall := by
  obtain ⟨fault, rfl⟩ | ⟨thrown, -, rfl⟩ := error_of_createResult failed
  · exact ofCall_toError fault
  · trivial

theorem ofCall_of_schemaResult {sequence : Int32} {reply : Bytes} (e : Error)
    (failed : schemaResult sequence reply = .error e) : e.OfCall := by
  obtain ⟨fault, rfl⟩ | ⟨thrown, -, rfl⟩ := error_of_schemaResult failed
  · exact ofCall_toError fault
  · trivial

/-- Whatever the codec makes of a reply, it is the call that fails. -/
theorem callsFailOnly (now : Int32) : (client now).CallsFailOnly Error.OfCall := by
  have number : FailsOnly Error.OfCall number := by
    intro c e c' failed
    cases failed
  have exchange (request : Bytes) :=
    (failsOnly_exchange request).mono fun _ => Error.OfConnection.ofCall
  constructor
  · intro name
    exact number.bind fun _ => (exchange _).bind fun _ => failsOnly_result ofCall_of_createResult
  · intro table
    exact number.bind fun _ => (exchange _).bind fun _ => failsOnly_result ofCall_of_createResult
  · intro database table
    exact number.bind fun _ => (exchange _).bind fun _ => failsOnly_result ofCall_of_schemaResult

end SaslClient

end MetastoreProbe
