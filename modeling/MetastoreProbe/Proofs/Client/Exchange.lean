import MetastoreProbe.Client.Sasl

/-!
# Exchanging frames

An exchange has two halves: a request is sent (`SaslClient.send`), and the frame that comes next is
received (`SaslClient.receive`).  Neither looks at what the frames say, so whatever goes wrong in an
exchange is wrong with the connection (`SaslClient.failsOnly_exchange`) and not an answer of the
metastore.
-/

namespace MetastoreProbe

variable {σ α β : Type}

/-! ## How operations fail -/

/-- All errors of the operation satisfy `P`. -/
def FailsOnly (P : Error → Prop) (operation : EStateM Error σ α) : Prop :=
  ∀ s e s', operation s = .error e s' → P e

namespace FailsOnly

variable {P Q : Error → Prop}

theorem pure (a : α) : FailsOnly P (Pure.pure a : EStateM Error σ α) := nofun

theorem throw {e : Error} (h : P e) : FailsOnly P (throwThe Error e : EStateM Error σ α) := by
  rintro s _ _ ⟨⟩
  exact h

theorem bind {p : EStateM Error σ α} {f : α → EStateM Error σ β} (first : FailsOnly P p)
    (next : ∀ a, FailsOnly P (f a)) : FailsOnly P (p >>= f) := by
  intro s e s' failed
  simp only [Bind.bind, EStateM.bind] at failed
  cases h : p s with
  | ok a middle =>
    rw [h] at failed
    exact next a middle e s' failed
  | error e' middle =>
    rw [h] at failed
    cases failed
    exact first s _ _ h

theorem mono {operation : EStateM Error σ α} (fails : FailsOnly P operation)
    (weaker : ∀ e, P e → Q e) : FailsOnly Q operation :=
  fun s e s' failed => weaker e (fails s e s' failed)

end FailsOnly

/-- The error says that the connection is closed or broken, or that a frame is too long for it. -/
def Error.OfConnection : Error → Prop
  | .io _ | .metastore .closed | .metastore (.protocol (.frameTooLong _)) => True
  | _ => False

/-! ## Streams -/

theorem Scan.failsOnly_take (n : Nat) {P : Error → Prop} {short : Error} (h : P short) :
    FailsOnly P (Scan.take n short : Scan UInt8 Error Bytes) := by
  intro input e rest failed
  unfold take at failed
  dsimp only at failed
  split at failed
  · cases failed
  · cases failed
    exact h

theorem Sink.failsOnly_write (xs : Bytes) : FailsOnly Error.OfConnection (Sink.write xs) := by
  intro s e s' failed
  unfold write at failed
  split at failed
  · cases failed
  · split at failed <;> cases failed
    trivial

namespace Stream

variable {P : Error → Prop}

theorem failsOnly_read {scan : Scan UInt8 Error α} (fails : FailsOnly P scan) :
    FailsOnly P (read scan) := by
  intro s e s' failed
  unfold read at failed
  cases h : scan s.incoming with
  | ok a incoming => simp [h] at failed
  | error e' incoming =>
    simp only [h] at failed
    cases failed
    exact fails s.incoming e incoming h

theorem failsOnly_send {action : EStateM Error Sink α} (fails : FailsOnly P action) :
    FailsOnly P (send action) := by
  intro s e s' failed
  unfold send at failed
  cases h : action s.sink with
  | ok a sink => simp [h] at failed
  | error e' sink =>
    simp only [h] at failed
    cases failed
    exact fails s.sink e sink h

end Stream

namespace Frame

theorem failsOnly_write (payload : Bytes) : FailsOnly Error.OfConnection (write payload) :=
  Stream.failsOnly_send ((Sink.failsOnly_write _).bind fun _ => Sink.failsOnly_write _)

theorem failsOnly_read : FailsOnly Error.OfConnection read := by
  refine Stream.failsOnly_read ((Scan.failsOnly_take 4 trivial).bind fun header => ?_)
  dsimp only
  split
  · exact .throw trivial
  · exact Scan.failsOnly_take _ trivial

end Frame

/-! ## The halves of an exchange -/

namespace SaslClient

/-- Sends a request, unless the client is closed. -/
def send (request : Bytes) : EStateM Error SaslClient Unit := fun c =>
  if c.closed then .error (.metastore .closed) c
  else
    match Frame.write request c.stream with
    | .error e stream => .error e { c with stream }
    | .ok _ stream => .ok () { c with stream }

/-- Receives the frame that comes next. -/
def receive : EStateM Error SaslClient Bytes := fun c =>
  match Frame.read c.stream with
  | .error e stream => .error e { c with stream }
  | .ok reply stream => .ok reply { c with stream }

/-- **An exchange is its halves**, one after the other. -/
theorem exchange_eq (request : Bytes) : exchange request = (do send request; receive) := by
  funext c
  simp only [exchange, send, bind, EStateM.bind]
  cases c.closed with
  | true => rfl
  | false =>
    simp only [Bool.false_eq_true, if_false]
    cases Frame.write request c.stream <;> rfl

theorem failsOnly_send (request : Bytes) : FailsOnly Error.OfConnection (send request) := by
  intro c e c' failed
  unfold send at failed
  split at failed
  · cases failed
    trivial
  · cases h : Frame.write request c.stream with
    | ok _ stream => simp [h] at failed
    | error e' stream =>
      simp only [h] at failed
      cases failed
      exact Frame.failsOnly_write request c.stream e stream h

theorem failsOnly_receive : FailsOnly Error.OfConnection receive := by
  intro c e c' failed
  unfold receive at failed
  cases h : Frame.read c.stream with
  | ok reply stream => simp [h] at failed
  | error e' stream =>
    simp only [h] at failed
    cases failed
    exact Frame.failsOnly_read c.stream e stream h

/-- What goes wrong in an exchange is wrong with the connection. -/
theorem failsOnly_exchange (request : Bytes) : FailsOnly Error.OfConnection (exchange request) := by
  rw [exchange_eq]
  exact (failsOnly_send request).bind fun _ => failsOnly_receive

theorem failsOnly_result {P : Error → Prop} {answer : Except Error α}
    (h : ∀ e, answer = .error e → P e) : FailsOnly P (result answer) := by
  cases answer with
  | ok a => exact .pure a
  | error e => exact .throw (h e rfl)

/-! ## Errors of replies -/

variable {sequence : Int32} {reply : Bytes} {e : Error}

/-- A reply to a method that creates something fails the call by its bytes, or by an exception other
than that the object exists already. -/
theorem error_of_createResult {method : Method}
    (failed : createResult method sequence reply = .error e) :
    (∃ fault : DecodeFault, e = fault.toError) ∨
      ∃ thrown : RemoteException, thrown.isAlreadyExists = false ∧
        e = remoteError method thrown := by
  unfold createResult at failed
  split at failed
  next fault _ =>
    cases failed
    exact .inl ⟨fault, rfl⟩
  next =>
    unfold createOutcome at failed
    split at failed
    next => cases failed
    next thrown _ =>
      split at failed
      next => cases failed
      next other =>
        cases failed
        exact .inr ⟨thrown, Bool.eq_false_iff.2 other, rfl⟩

/-- The reply with a schema fails the call by its bytes, or by an exception. -/
theorem error_of_schemaResult (failed : schemaResult sequence reply = .error e) :
    (∃ fault : DecodeFault, e = fault.toError) ∨
      ∃ thrown : RemoteException, Reply.decodeSchema sequence reply = .ok (.exception thrown) ∧
        e = remoteError .getSchema thrown := by
  unfold schemaResult at failed
  split at failed
  next fault _ =>
    cases failed
    exact .inl ⟨fault, rfl⟩
  next answer decoded =>
    cases answer with
    | value schema => cases failed
    | exception thrown =>
      cases failed
      exact .inr ⟨thrown, decoded, rfl⟩

end SaslClient

end MetastoreProbe
