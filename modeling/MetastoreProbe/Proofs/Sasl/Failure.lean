import MetastoreProbe.Proofs.Sasl.Boundary
import MetastoreProbe.Proofs.Sasl.Framing

/-!
# How a negotiation fails

A negotiation can break off at every message that it sends or receives and at every response that it
asks for, and its stream can stop taking bytes anywhere.  `Negotiation.Fails` lists the first
failures: what went right until then (`Progress`), what failed, and all that is done about it.  Only
a mechanism that fails is reported, in one message, and whether that message can be sent makes no
difference to what comes of it.  Nothing follows any other failure.

`Negotiation.run_fails_iff` says that a negotiation fails in these ways and in no others, whatever
the mechanism is, whatever comes in and wherever the stream stops taking bytes.  A message that does
not fit is sent in part, so what is sent is what the sink takes of the messages in their order
(`Sink.given`).
-/

namespace MetastoreProbe

namespace Sasl

/-! ## Receiving -/

/-- What comes in does not start with a message that lets the negotiation go on: the error that this
is, and what is left. -/
inductive Refused : (incoming : Bytes) → Error → (rest : Bytes) → Prop
  /-- Nothing comes in any more. -/
  | ended : Refused [] (.io .endOfFile) []
  /-- The byte of no status: it is taken, and nothing behind it. -/
  | unknown {byte : UInt8} {rest : Bytes} (unknown : ∀ status : Status, status.byte ≠ byte) :
    Refused (byte :: rest) (.metastore (.sasl (.unknownStatus byte))) rest
  /-- No payload follows the status. -/
  | unframed {status : Status} {input rest : Bytes} {e : Error}
    (refused : Frame.Refused input e rest) :
    Refused (status.byte :: input) e rest
  /-- The server gives up, or refuses what the client sent. -/
  | rejected {status : Status} {payload rest : Bytes} (gaveUp : status = .bad ∨ status = .error)
    (accepted : payload.length ≤ maxFrameLength) :
    Refused (message status payload ++ rest)
      (.metastore (.sasl (.rejected status (Utf8.decodeLossy payload)))) rest
  /-- The server opens a negotiation of its own. -/
  | restarted {payload rest : Bytes} (accepted : payload.length ≤ maxFrameLength) :
    Refused (message .start payload ++ rest) (.metastore (.sasl .unexpectedStart)) rest

theorem ofByte?_eq_none_iff {byte : UInt8} :
    Status.ofByte? byte = none ↔ ∀ status : Status, status.byte ≠ byte := by
  constructor
  · rintro unknown status rfl
    simp at unknown
  · intro unknown
    cases known : Status.ofByte? byte with
    | none => rfl
    | some status => exact absurd (Status.byte_of_ofByte? known) (unknown status)

/-- A status is received, and what follows it decides. -/
theorem receive_cons (status : Status) (input : Bytes) :
    receive (status.byte :: input) =
      (do
        let payload ← Frame.payload
        match status with
        | .ok | .complete => return (status, payload)
        | .bad | .error => throw (.metastore (.sasl (.rejected status (Utf8.decodeLossy payload))))
        | .start => throw (.metastore (.sasl .unexpectedStart)) : Scan UInt8 Error _) input := by
  cases status <;> rfl

/-- **What is refused is just what does not let the negotiation go on.** -/
theorem receive_eq_error_iff {incoming rest : Bytes} {e : Error} :
    receive incoming = .error e rest ↔ Refused incoming e rest := by
  constructor
  · intro failed
    cases incoming with
    | nil =>
      cases failed
      exact .ended
    | cons byte input =>
      cases known : Status.ofByte? byte with
      | none =>
        have first : Scan.next (Error.io .endOfFile) (byte :: input) = .ok byte input := rfl
        rw [receive, Scan.bind_apply_of_ok first, known] at failed
        cases failed
        exact .unknown (ofByte?_eq_none_iff.1 known)
      | some status =>
        obtain rfl := Status.byte_of_ofByte? known
        rw [receive_cons] at failed
        rcases Scan.bind_eq_error_iff.1 failed with cut | ⟨payload, behind, read, body⟩
        · exact .unframed (Frame.payload_eq_error_iff.1 cut)
        · obtain ⟨accepted, rfl⟩ := Frame.payload_eq_ok_iff.1 read
          cases status <;> cases body
          · exact .restarted accepted
          · exact .rejected (.inl rfl) accepted
          · exact .rejected (.inr rfl) accepted
  · intro refused
    cases refused with
    | ended => rfl
    | @unknown byte _ unknown =>
      have first : Scan.next (Error.io .endOfFile) (byte :: rest) = .ok byte rest := rfl
      rw [receive, Scan.bind_apply_of_ok first, ofByte?_eq_none_iff.2 unknown]
      rfl
    | unframed refused =>
      rw [receive_cons, Scan.bind_apply_of_error (Frame.payload_eq_error_iff.2 refused)]
    | rejected gaveUp accepted =>
      rw [message_eq, List.cons_append, receive_cons,
        Scan.bind_apply_of_ok (Frame.payload_bytes_append accepted rest)]
      rcases gaveUp with rfl | rfl <;> rfl
    | restarted accepted =>
      rw [message_eq, List.cons_append, receive_cons,
        Scan.bind_apply_of_ok (Frame.payload_bytes_append accepted rest)]
      rfl

/-! ## What the steps send -/

namespace Event

variable (events later : List Event) (status : Status) (payload : Bytes)

theorem sent_append : sent (events ++ later) = sent events ++ sent later :=
  List.filterMap_append

@[simp] theorem sentBytes_nil : sentBytes [] = [] := rfl

@[simp] theorem sentBytes_sending :
    sentBytes (sending status payload :: events) = message status payload ++ sentBytes events := rfl

@[simp] theorem sentBytes_received :
    sentBytes (received status payload :: events) = sentBytes events := rfl

@[simp] theorem sentBytes_initial : sentBytes (initial :: events) = sentBytes events := rfl

@[simp] theorem sentBytes_challenge :
    sentBytes (challenge payload :: events) = sentBytes events := rfl

end Event

/-! ## The client over any sink -/

namespace Party

variable {μ : Type}

/-- The party after more steps, over any sink: what it sent is what there was room for. -/
def advanced (p : Party μ) (mechanism : μ) (events : List Event) : Party μ where
  mechanism := mechanism
  sink := p.sink.given (Event.sentBytes events)
  events := p.events ++ events

@[simp] theorem mechanism_advanced (p : Party μ) (s' : μ) (events : List Event) :
    (p.advanced s' events).mechanism = s' := rfl

@[simp] theorem sink_advanced (p : Party μ) (s' : μ) (events : List Event) :
    (p.advanced s' events).sink = p.sink.given (Event.sentBytes events) := rfl

theorem advanced_advanced (p : Party μ) (s s' : μ) (events later : List Event) :
    (p.advanced s events).advanced s' later = p.advanced s' (events ++ later) := by
  simp [advanced, Event.sentBytes_append, Sink.given_append]

variable {p : Party μ} {m : Mechanism μ} {s' : μ} {status : Status} {payload response : Bytes}
  {e : Error}

theorem note_eq_advanced {event : Event} (silent : event.sent? = none) :
    p.note event = p.advanced p.mechanism [event] := by
  simp [note, advanced, Event.sentBytes, Event.sent, silent]

theorem send_of_fits (fits : p.sink.Fits (message status payload)) :
    p.send status payload = .ok () (p.advanced p.mechanism [.sending status payload]) := by
  simp [send, note, Sink.write_of_fits fits, advanced]

theorem send_of_not_fits (full : ¬ p.sink.Fits (message status payload)) :
    p.send status payload =
      .error (.io .writeLimit) (p.advanced p.mechanism [.sending status payload]) := by
  simp [send, note, Sink.write_of_not_fits full, advanced]

/-! Whether a message can be sent shows in the messages in front of it, which were sent whole. -/

theorem send_advanced_of_fits {events : List Event}
    (fits : p.sink.Fits (Event.sentBytes events ++ message status payload)) :
    (p.advanced s' events).send status payload =
      .ok () (p.advanced s' (events ++ [.sending status payload])) := by
  have room : (p.advanced s' events).sink.Fits (message status payload) :=
    (Sink.fits_append_iff.1 fits).2
  rw [send_of_fits room, mechanism_advanced, advanced_advanced]

theorem send_advanced_of_not_fits {events : List Event}
    (before : p.sink.Fits (Event.sentBytes events))
    (full : ¬ p.sink.Fits (Event.sentBytes events ++ message status payload)) :
    (p.advanced s' events).send status payload =
      .error (.io .writeLimit) (p.advanced s' (events ++ [.sending status payload])) := by
  have noRoom : ¬ (p.advanced s' events).sink.Fits (message status payload) :=
    fun room => full (Sink.fits_append_iff.2 ⟨before, room⟩)
  rw [send_of_not_fits noRoom, mechanism_advanced, advanced_advanced]

/-- A failure of the mechanism is reported once, and stays what it is. -/
theorem abort_eq {α : Type} (p : Party μ) (e : Error) :
    (p.abort e : EStateM.Result Error (Party μ) α) =
      .error e (p.advanced p.mechanism [.sending .error (Utf8.encode e.message)]) := by
  unfold abort
  by_cases fits : p.sink.Fits (message .error (Utf8.encode e.message))
  · rw [send_of_fits fits]
  · rw [send_of_not_fits fits]

theorem ask_of_ok (event : Event) (silent : event.sent? = none) {asked : EStateM Error μ Bytes}
    (responds : asked p.mechanism = .ok response s') :
    p.ask event asked = .ok response (p.advanced s' [event]) := by
  simp only [ask, note_eq_advanced silent, mechanism_advanced, responds]
  rfl

theorem ask_of_error (event : Event) (silent : event.sent? = none) {asked : EStateM Error μ Bytes}
    (failed : asked p.mechanism = .error e s') :
    p.ask event asked =
      .error e (p.advanced s' [event, .sending .error (Utf8.encode e.message)]) := by
  have moved : ({ p.advanced p.mechanism [event] with mechanism := s' } : Party μ) =
      p.advanced s' [event] := rfl
  simp only [ask, note_eq_advanced silent, mechanism_advanced, failed, moved, abort_eq,
    advanced_advanced, List.singleton_append]

theorem opening_of_not_fits (full : ¬ p.sink.Fits (message .start (Utf8.encode m.name))) :
    p.opening m =
      .error (.io .writeLimit) (p.advanced p.mechanism [.sending .start (Utf8.encode m.name)]) := by
  simp only [opening, bind, EStateM.bind, send_of_not_fits full]

theorem opening_of_error (fits : p.sink.Fits (message .start (Utf8.encode m.name)))
    (failed : m.initialResponse p.mechanism = .error e s') :
    p.opening m =
      .error e (p.advanced s' [.sending .start (Utf8.encode m.name), .initial,
        .sending .error (Utf8.encode e.message)]) := by
  have asked := ask_of_error (p := p.advanced p.mechanism [.sending .start (Utf8.encode m.name)])
    .initial rfl failed
  simp only [opening, bind, EStateM.bind, send_of_fits fits, asked, advanced_advanced,
    List.singleton_append]

/-- Once the mechanism has an initial response, this is sent. -/
theorem opening_of_ok (fits : p.sink.Fits (message .start (Utf8.encode m.name)))
    (responds : m.initialResponse p.mechanism = .ok response s') :
    p.opening m =
      (p.advanced s' [.sending .start (Utf8.encode m.name), .initial]).send (m.status s')
        response := by
  have asked := ask_of_ok (p := p.advanced p.mechanism [.sending .start (Utf8.encode m.name)])
    .initial rfl responds
  simp only [opening, bind, EStateM.bind, send_of_fits fits, asked, advanced_advanced,
    List.singleton_append]
  rfl

theorem received_eq (p : Party μ) (status : Status) (payload : Bytes) :
    (modify (·.note (.received status payload)) : EStateM Error (Party μ) Unit) p =
      .ok () (p.advanced p.mechanism [.received status payload]) :=
  congrArg (EStateM.Result.ok ()) (note_eq_advanced rfl)

theorem takeIn_of_error (status : Status) (failed : m.evaluate payload p.mechanism = .error e s') :
    p.takeIn m status payload =
      .error e (p.advanced s' [.received status payload, .challenge payload,
        .sending .error (Utf8.encode e.message)]) := by
  have asked := ask_of_error (p := p.advanced p.mechanism [.received status payload])
    (.challenge payload) rfl failed
  simp only [takeIn, bind, EStateM.bind, received_eq, asked, advanced_advanced,
    List.singleton_append]

theorem takeIn_complete (responds : m.evaluate payload p.mechanism = .ok response s') :
    p.takeIn m .complete payload =
      .ok () (p.advanced s' [.received .complete payload, .challenge payload]) := by
  have asked := ask_of_ok (p := p.advanced p.mechanism [.received .complete payload])
    (.challenge payload) rfl responds
  simp only [takeIn, bind, EStateM.bind, received_eq, asked, advanced_advanced,
    List.singleton_append]
  rfl

/-- A message that goes on is answered with the response of the mechanism. -/
theorem takeIn_ok (responds : m.evaluate payload p.mechanism = .ok response s') :
    p.takeIn m .ok payload =
      (p.advanced s' [.received .ok payload, .challenge payload]).send (m.status s') response := by
  have asked := ask_of_ok (p := p.advanced p.mechanism [.received .ok payload])
    (.challenge payload) rfl responds
  simp only [takeIn, bind, EStateM.bind, received_eq, asked, advanced_advanced,
    List.singleton_append]
  rfl

end Party

/-! ## First failures -/

section Failures

variable {μ : Type} (m : Mechanism μ) (s : μ)

/-- How far a negotiation can come if all goes right: the steps taken, the status of the server's
last message, the state of the mechanism and what is left of what comes in. -/
inductive Progress (incoming : Bytes) :
    List Event → (last : Option Status) → (s' : μ) → (unread : Bytes) → Prop
  /-- The name of the mechanism was sent, and its initial response. -/
  | opened {s' : μ} {response : Bytes} (responds : m.initialResponse s = .ok response s') :
    Progress incoming
      [.sending .start (Utf8.encode m.name), .initial, .sending (m.status s') response] none s'
      incoming
  /-- A message of the server was answered. -/
  | answered {events : List Event} {last : Option Status} {s' s'' : μ}
    {unread payload rest response : Bytes} (progress : Progress incoming events last s' unread)
    (incomplete : m.isComplete s' = false) (delivers : Delivers unread .ok payload rest)
    (responds : m.evaluate payload s' = .ok response s'') :
    Progress incoming
      (events ++ [.received .ok payload, .challenge payload, .sending (m.status s'') response])
      (some .ok) s'' rest
  /-- The server's last message was taken in. -/
  | takenIn {events : List Event} {last : Option Status} {s' s'' : μ}
    {unread payload rest response : Bytes} (progress : Progress incoming events last s' unread)
    (incomplete : m.isComplete s' = false) (delivers : Delivers unread .complete payload rest)
    (responds : m.evaluate payload s' = .ok response s'') :
    Progress incoming (events ++ [.received .complete payload, .challenge payload])
      (some .complete) s'' rest

/-- The ways in which a negotiation can fail over a stream.  The steps end with what is done about
the failure, and all messages in front of the failure were sent whole. -/
inductive Negotiation.Fails (stream : Stream) :
    List Event → Error → (s' : μ) → (rest : Bytes) → Prop
  /-- The name of the mechanism cannot be sent: the mechanism is not asked for anything. -/
  | unnamed (full : ¬ stream.sink.Fits (message .start (Utf8.encode m.name))) :
    Fails stream [.sending .start (Utf8.encode m.name)] (.io .writeLimit) s stream.incoming
  /-- The mechanism has no initial response: the server is told, if it can be. -/
  | unopened {s' : μ} {e : Error} (named : stream.sink.Fits (message .start (Utf8.encode m.name)))
    (failed : m.initialResponse s = .error e s') :
    Fails stream
      [.sending .start (Utf8.encode m.name), .initial, .sending .error (Utf8.encode e.message)]
      e s' stream.incoming
  /-- The initial response cannot be sent. -/
  | unintroduced {s' : μ} {response : Bytes}
    (named : stream.sink.Fits (message .start (Utf8.encode m.name)))
    (responds : m.initialResponse s = .ok response s')
    (full : ¬ stream.sink.Fits
      (message .start (Utf8.encode m.name) ++ message (m.status s') response)) :
    Fails stream
      [.sending .start (Utf8.encode m.name), .initial, .sending (m.status s') response]
      (.io .writeLimit) s' stream.incoming
  /-- A message of the server is due, and there is none that lets the negotiation go on. -/
  | unanswered {events : List Event} {last : Option Status} {s' : μ} {unread rest : Bytes}
    {e : Error} (progress : Progress m s stream.incoming events last s' unread)
    (sent : stream.sink.Fits (Event.sentBytes events))
    (due : m.isComplete s' = true → last ≠ some .complete) (refused : Refused unread e rest) :
    Fails stream events e s' rest
  /-- The mechanism has no response to a message: the server is told, if it can be. -/
  | gaveUp {events : List Event} {last : Option Status} {s' s'' : μ}
    {unread payload rest : Bytes} {status : Status} {e : Error}
    (progress : Progress m s stream.incoming events last s' unread)
    (sent : stream.sink.Fits (Event.sentBytes events)) (incomplete : m.isComplete s' = false)
    (delivers : Delivers unread status payload rest)
    (failed : m.evaluate payload s' = .error e s'') :
    Fails stream
      (events ++ [.received status payload, .challenge payload,
        .sending .error (Utf8.encode e.message)])
      e s'' rest
  /-- A response cannot be sent. -/
  | unsent {events : List Event} {last : Option Status} {s' s'' : μ}
    {unread payload rest response : Bytes}
    (progress : Progress m s stream.incoming events last s' unread)
    (sent : stream.sink.Fits (Event.sentBytes events)) (incomplete : m.isComplete s' = false)
    (delivers : Delivers unread .ok payload rest)
    (responds : m.evaluate payload s' = .ok response s'')
    (full : ¬ stream.sink.Fits (Event.sentBytes events ++ message (m.status s'') response)) :
    Fails stream
      (events ++ [.received .ok payload, .challenge payload, .sending (m.status s'') response])
      (.io .writeLimit) s'' rest
  /-- The mechanism is done, and the server goes on instead of confirming. -/
  | unconfirmed {events : List Event} {last : Option Status} {s' : μ}
    {unread payload rest : Bytes} (progress : Progress m s stream.incoming events last s' unread)
    (sent : stream.sink.Fits (Event.sentBytes events)) (complete : m.isComplete s' = true)
    (owed : last ≠ some .complete) (delivers : Delivers unread .ok payload rest) :
    Fails stream (events ++ [.received .ok payload]) (.metastore (.sasl (.notComplete .ok))) s' rest

end Failures

/-- The party that a negotiation begins with. -/
def Party.fresh {μ : Type} (s : μ) (stream : Stream) : Party μ :=
  { mechanism := s, sink := stream.sink }

@[simp] theorem Party.sink_fresh {μ : Type} (s : μ) (stream : Stream) :
    (fresh s stream).sink = stream.sink := rfl

section Laws

variable {μ : Type} {m : Mechanism μ} {s s' : μ} {stream : Stream} {incoming unread rest : Bytes}
  {events : List Event} {last : Option Status} {e : Error}

theorem Mechanism.status_ne_error (m : Mechanism μ) (s : μ) : m.status s ≠ .error := by
  unfold status
  split <;> nofun

namespace Progress

/-- As long as all goes right, no failure is reported. -/
theorem sent_ne_error (progress : Progress m s incoming events last s' unread) :
    ∀ x ∈ Event.sent events, x.1 ≠ .error := by
  induction progress with
  | opened => simp [Mechanism.status_ne_error]
  | answered _ _ _ _ ih =>
    rw [Event.sent_append]
    exact List.forall_mem_append.2 ⟨ih, by simp [Mechanism.status_ne_error]⟩
  | takenIn _ _ _ _ ih =>
    rw [Event.sent_append]
    exact List.forall_mem_append.2 ⟨ih, by simp⟩

/-- **What can come is what comes**, where there is room for all that is sent. -/
theorem run_eq (progress : Progress m s stream.incoming events last s' unread)
    (fits : stream.sink.Fits (Event.sentBytes events)) :
    Negotiation.run m s stream =
      Negotiation.goOn m last ((Party.fresh s stream).advanced s' events) unread := by
  induction progress with
  | @opened s' response responds =>
    have both : stream.sink.Fits
        (message .start (Utf8.encode m.name) ++ message (m.status s') response) := by
      simpa using fits
    have asked := Party.opening_of_ok (p := Party.fresh s stream)
      (Sink.fits_append_iff.1 both).1 responds
    rw [Party.send_advanced_of_fits (by simpa using both)] at asked
    exact Negotiation.run_of_opening asked
  | @answered events _ s' s'' _ payload _ response _ incomplete delivers responds ih =>
    have before : stream.sink.Fits (Event.sentBytes events) := by
      rw [Event.sentBytes_append] at fits
      exact (Sink.fits_append_iff.1 fits).1
    have took := Party.takeIn_ok (p := (Party.fresh s stream).advanced s' events) responds
    rw [Party.advanced_advanced,
      Party.send_advanced_of_fits (by simpa [Event.sentBytes_append] using fits),
      List.append_assoc] at took
    rw [ih before, Negotiation.goOn_of_delivers incomplete delivers, took]
    rfl
  | @takenIn events _ s' s'' _ payload _ _ _ incomplete delivers responds ih =>
    have before : stream.sink.Fits (Event.sentBytes events) := by
      simpa [Event.sentBytes_append] using fits
    have took := Party.takeIn_complete (p := (Party.fresh s stream).advanced s' events) responds
    rw [Party.advanced_advanced] at took
    rw [ih before, Negotiation.goOn_of_delivers incomplete delivers, took]

end Progress

namespace Negotiation

/-- A negotiation that succeeds has reported no failure, and has sent what the sink took. -/
def Succeeds (n : Negotiation μ Unit) (s : μ) (stream : Stream) : Prop :=
  ∃ events s' rest, n = ⟨.ok (), (Party.fresh s stream).advanced s' events, rest⟩ ∧
    ∀ x ∈ Event.sent events, x.1 ≠ .error

theorem run_of_opening_error {party : Party μ}
    (opened : (Party.fresh s stream).opening m = .error e party) :
    run m s stream = ⟨.error e, party, stream.incoming⟩ := by
  have opening_eq : Party.opening m { mechanism := s, sink := stream.sink } = .error e party :=
    opened
  rw [run, opening_eq]

/-- **What a failure comes to is what is said of it.** -/
theorem Fails.run_eq (fails : Fails m s stream events e s' rest) :
    run m s stream = ⟨.error e, (Party.fresh s stream).advanced s' events, rest⟩ := by
  cases fails with
  | unnamed full =>
    have opened := Party.opening_of_not_fits (p := Party.fresh s stream) full
    exact run_of_opening_error opened
  | unopened named failed =>
    have opened := Party.opening_of_error (p := Party.fresh s stream) named failed
    exact run_of_opening_error opened
  | @unintroduced s' response named responds full =>
    have opened := Party.opening_of_ok (p := Party.fresh s stream) named responds
    rw [Party.send_advanced_of_not_fits (by simpa using named) (by simpa using full)] at opened
    exact run_of_opening_error opened
  | unanswered progress sent due refused =>
    have failed := receive_eq_error_iff.2 refused
    rw [progress.run_eq sent]
    cases complete : m.isComplete s' with
    | true =>
      rw [goOn_of_complete complete]
      exact closing_of_error (due complete) failed
    | false => exact goOn_of_error complete failed
  | @gaveUp events _ t _ _ _ _ status _ progress sent incomplete delivers failed =>
    have took := Party.takeIn_of_error (p := (Party.fresh s stream).advanced t events) status failed
    rw [Party.advanced_advanced] at took
    rw [progress.run_eq sent, goOn_of_delivers incomplete delivers, took]
  | @unsent events _ t _ _ payload _ response progress sent incomplete delivers responds full =>
    have took := Party.takeIn_ok (p := (Party.fresh s stream).advanced t events) responds
    rw [Party.advanced_advanced,
      Party.send_advanced_of_not_fits (by simpa [Event.sentBytes_append] using sent)
        (by simpa [Event.sentBytes_append] using full), List.append_assoc] at took
    rw [progress.run_eq sent, goOn_of_delivers incomplete delivers, took]
    rfl
  | @unconfirmed events _ s' _ payload _ progress sent complete owed delivers =>
    have received := receive_eq_ok_iff.2 delivers
    have noted : ((Party.fresh s stream).advanced s' events).note (.received .ok payload) =
        (Party.fresh s stream).advanced s' (events ++ [.received .ok payload]) :=
      (Party.note_eq_advanced rfl).trans (Party.advanced_advanced _ _ _ _ _)
    rw [progress.run_eq sent, goOn_of_complete complete, closing, if_neg owed, received]
    simp only [noted]
    rfl

/-- **A negotiation that has come some way succeeds, or fails in one of the ways there are.** -/
theorem succeeds_or_fails (progress : Progress m s stream.incoming events last s' unread)
    (sent : stream.sink.Fits (Event.sentBytes events)) :
    (run m s stream).Succeeds s stream ∨ ∃ events e s' rest, Fails m s stream events e s' rest := by
  -- Each round takes a message off what comes in, as in the loop.
  induction length : unread.length using Nat.strongRecOn
    generalizing events last s' unread with
  | ind n ih =>
  cases complete : m.isComplete s' with
  | true =>
    by_cases confirmed : last = some .complete
    · left
      refine ⟨events, s', unread, ?_, progress.sent_ne_error⟩
      rw [progress.run_eq sent, goOn_of_complete complete, closing, if_pos confirmed]
    · cases taken : receive unread with
      | error e rest =>
        exact .inr ⟨_, _, _, _,
          .unanswered progress sent (fun _ => confirmed) (receive_eq_error_iff.1 taken)⟩
      | ok message rest =>
        obtain ⟨status, payload⟩ := message
        have delivers := receive_eq_ok_iff.1 taken
        rcases delivers.goesOn with rfl | rfl
        · exact .inr ⟨_, _, _, _, .unconfirmed progress sent complete confirmed delivers⟩
        · left
          refine ⟨events ++ [.received .complete payload], s', rest, ?_, ?_⟩
          · rw [progress.run_eq sent, goOn_of_complete complete,
              closing_of_complete confirmed taken, Party.note_eq_advanced rfl,
              Party.advanced_advanced]
            rfl
          · rw [Event.sent_append]
            exact List.forall_mem_append.2 ⟨progress.sent_ne_error, by simp⟩
  | false =>
    cases taken : receive unread with
    | error e rest =>
      have due : m.isComplete s' = true → last ≠ some .complete := by simp [complete]
      exact .inr ⟨_, _, _, _, .unanswered progress sent due (receive_eq_error_iff.1 taken)⟩
    | ok message rest =>
      obtain ⟨status, payload⟩ := message
      have delivers := receive_eq_ok_iff.1 taken
      have shorter : rest.length < n := by
        have := length_of_receive taken
        omega
      cases responds : m.evaluate payload s' with
      | error e s'' => exact .inr ⟨_, _, _, _, .gaveUp progress sent complete delivers responds⟩
      | ok response s'' =>
        rcases delivers.goesOn with rfl | rfl
        · by_cases room :
            stream.sink.Fits (Event.sentBytes events ++ Sasl.message (m.status s'') response)
          · exact ih rest.length shorter (.answered progress complete delivers responds)
              (by simpa [Event.sentBytes_append] using room) rfl
          · exact .inr ⟨_, _, _, _, .unsent progress sent complete delivers responds room⟩
        · exact ih rest.length shorter (.takenIn progress complete delivers responds)
            (by simpa [Event.sentBytes_append] using sent) rfl

theorem run_succeeds_or_fails (m : Mechanism μ) (s : μ) (stream : Stream) :
    (run m s stream).Succeeds s stream ∨ ∃ events e s' rest, Fails m s stream events e s' rest := by
  by_cases named : stream.sink.Fits (message .start (Utf8.encode m.name))
  · cases responds : m.initialResponse s with
    | error e s' => exact .inr ⟨_, _, _, _, .unopened named responds⟩
    | ok response s' =>
      by_cases room : stream.sink.Fits
          (message .start (Utf8.encode m.name) ++ message (m.status s') response)
      · exact succeeds_or_fails (.opened responds) (by simpa using room)
      · exact .inr ⟨_, _, _, _, .unintroduced named responds room⟩
  · exact .inr ⟨_, _, _, _, .unnamed named⟩

/-- A failure is reported in the last message, if it is reported at all. -/
theorem Fails.ne_error_of_mem_dropLast (fails : Fails m s stream events e s' rest) :
    ∀ x ∈ (Event.sent events).dropLast, x.1 ≠ .error := by
  have dropped {l : List (Status × Bytes)} (all : ∀ x ∈ l, x.1 ≠ .error) :
      ∀ x ∈ l.dropLast, x.1 ≠ .error := fun x member => all x (List.dropLast_subset l member)
  cases fails with
  | unnamed | unopened | unintroduced => simp
  | unanswered progress => exact dropped progress.sent_ne_error
  | gaveUp progress =>
    rw [Event.sent_append]
    simpa using progress.sent_ne_error
  | unsent progress =>
    rw [Event.sent_append]
    simpa using progress.sent_ne_error
  | unconfirmed progress =>
    rw [Event.sent_append]
    simpa using dropped progress.sent_ne_error

/-- **A negotiation fails with its first failure**, and reports it at most once, whatever the
mechanism is, whatever comes in and wherever the stream stops taking bytes.

What is sent are the messages of the steps, as far as there is room for them.  The negotiation fails
in the ways of `Fails`, each with the error, the steps, the state of the mechanism and the unread
bytes that are said there, and in no other way.  An `error` is the last message if it is sent, and
where the name of the mechanism cannot be sent, the mechanism is not asked for anything. -/
theorem run_fails_iff (m : Mechanism μ) (s : μ) (stream : Stream) :
    let n := run m s stream
    n.party.sink = stream.sink.given (Event.sentBytes n.party.events) ∧
      (∀ events e s' rest, Fails m s stream events e s' rest ↔
        n.result = .error e ∧ n.party.events = events ∧ n.party.mechanism = s' ∧
          n.incoming = rest) ∧
      (∀ x ∈ (Event.sent n.party.events).dropLast, x.1 ≠ .error) ∧
      (¬ stream.sink.Fits (message .start (Utf8.encode m.name)) →
        n.party.events = [.sending .start (Utf8.encode m.name)] ∧ n.party.mechanism = s) := by
  intro n
  have ended := run_succeeds_or_fails m s stream
  refine ⟨?_, fun events e s' rest => ⟨fun fails => ?_, ?_⟩, ?_, fun full => ?_⟩
  · rcases ended with ⟨events, s', rest, run_eq, -⟩ | ⟨events, e, s', rest, fails⟩
    · simp [n, run_eq, Party.advanced, Party.fresh]
    · simp [n, fails.run_eq, Party.advanced, Party.fresh]
  · simp [n, fails.run_eq, Party.advanced, Party.fresh]
  · rintro ⟨failed, rfl, rfl, rfl⟩
    rcases ended with ⟨events, s', rest, run_eq, -⟩ | ⟨events, e', s', rest, fails⟩
    · simp [n, run_eq] at failed
    · simp only [n, fails.run_eq, Except.error.injEq] at failed ⊢
      subst failed
      exact fails
  · rcases ended with ⟨events, s', rest, run_eq, unreported⟩ | ⟨events, e, s', rest, fails⟩
    · simpa [n, run_eq, Party.advanced, Party.fresh] using
        fun x member => unreported x (List.dropLast_subset _ member)
    · simpa [n, fails.run_eq, Party.advanced, Party.fresh] using fails.ne_error_of_mem_dropLast
  · have fails : Fails m s stream _ _ _ _ := .unnamed full
    simp [n, fails.run_eq, Party.advanced, Party.fresh]

/-- The mechanism fails on a challenge, and the stream takes three bytes of the report: the failure
is still the one of the mechanism, and what follows the challenge is left. -/
theorem run_fails_iff_of_cut_report :
    let m := ScriptedMechanism.mechanism "T"
    let s : ScriptedMechanism := { steps := [.respond [1] false, .fail "no"] }
    let stream : Stream := { incoming := message .ok [7] ++ [9], sink := { room := some 15 } }
    let n := run m s stream
    n.result = .error (.metastore (.sasl (.mechanism "no"))) ∧
      n.party.sink.sent = message .start [84] ++ message .ok [1] ++ [4, 0, 0] ∧
      n.incoming = [9] := by
  intro m s stream n
  have responds : m.initialResponse s = .ok [1] { steps := [.fail "no"] } := rfl
  have progress : Progress m s stream.incoming _ _ _ _ := .opened responds
  have sent : stream.sink.Fits (Event.sentBytes [.sending .start (Utf8.encode m.name), .initial,
      .sending (m.status { steps := [.fail "no"] }) [1]]) := by
    intro room limited
    cases limited
    decide +kernel
  have delivers : Delivers stream.incoming .ok [7] [9] := ⟨.inl rfl, by decide, rfl⟩
  have fails : Fails m s stream _ _ _ _ := .gaveUp progress sent rfl delivers rfl
  obtain ⟨sink, ways, -⟩ := run_fails_iff m s stream
  obtain ⟨failed, steps, -, unread⟩ := (ways _ _ _ _).1 fails
  refine ⟨failed, ?_, unread⟩
  rw [sink, steps]
  decide +kernel

end Negotiation

end Laws

end Sasl

end MetastoreProbe
