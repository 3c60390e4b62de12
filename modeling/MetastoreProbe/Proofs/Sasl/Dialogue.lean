import MetastoreProbe.Proofs.Sasl.Frame
import MetastoreProbe.Sasl.Negotiation

/-!
# Dialogues

What a negotiation can do, said once.  `Dialogue` lists the ways in which it can go, one way for
each side being done first, for each way of breaking off and for each message that is answered or
only taken in, with the steps that are taken and with what comes of it.
`Negotiation.exists_dialogue` says that the client takes one of these ways over any stream that
takes everything, and that the bytes of the steps are just what it sends.

Neither the mechanism nor the server is known, so a dialogue is the only thing that is known of a
negotiation: the laws of the protocol follow from it, and the program is not opened again.
-/

namespace MetastoreProbe

namespace Sasl

/-! ## Receiving -/

/-- What comes in is a message that lets the negotiation go on, and `rest` behind it. -/
structure Delivers (incoming : Bytes) (status : Status) (payload rest : Bytes) : Prop where
  goesOn : status = .ok ∨ status = .complete
  accepted : payload.length ≤ maxFrameLength
  eq_append : incoming = message status payload ++ rest

theorem message_eq (status : Status) (payload : Bytes) :
    message status payload = status.byte :: Frame.bytes payload := rfl

theorem receive_eq_ok_iff {incoming rest payload : Bytes} {status : Status} :
    receive incoming = .ok (status, payload) rest ↔ Delivers incoming status payload rest := by
  constructor
  · intro h
    obtain ⟨byte, afterByte, first, body⟩ := Scan.bind_eq_ok_iff.1 h
    cases incoming with
    | nil => cases first
    | cons b incoming =>
      cases first
      cases known : Status.ofByte? byte with
      | none => simp [known] at body
      | some found =>
        simp only [known] at body
        obtain ⟨received, afterPayload, read, kept⟩ := Scan.bind_eq_ok_iff.1 body
        obtain ⟨accepted, rfl⟩ := Frame.payload_eq_ok_iff.1 read
        have opened : found.byte = byte := Status.byte_of_ofByte? known
        cases found <;> cases kept
        · exact ⟨.inl rfl, accepted, by rw [message_eq, opened]; rfl⟩
        · exact ⟨.inr rfl, accepted, by rw [message_eq, opened]; rfl⟩
  · rintro ⟨goesOn, accepted, rfl⟩
    have first : Scan.next (Error.io .endOfFile) (message status payload ++ rest) =
        .ok status.byte (Frame.bytes payload ++ rest) := rfl
    rw [receive, Scan.bind_apply_of_ok first, Status.ofByte?_byte]
    simp only [Scan.bind_apply_of_ok (Frame.payload_bytes_append accepted rest)]
    rcases goesOn with rfl | rfl <;> rfl

/-! ## Steps -/

namespace Event

/-- The message that a step sends. -/
def sent? : Event → Option (Status × Bytes)
  | sending status payload => some (status, payload)
  | received _ _ | initial | challenge _ => none

/-- The message that a step receives. -/
def heard? : Event → Option (Status × Bytes)
  | received status payload => some (status, payload)
  | sending _ _ | initial | challenge _ => none

variable (events later : List Event) (status : Status) (payload : Bytes)

/-- The messages that are sent in some steps, in order. -/
def sent : List (Status × Bytes) := events.filterMap sent?

/-- The messages that are received in some steps, in order. -/
def heard : List (Status × Bytes) := events.filterMap heard?

@[simp] theorem sent_nil : sent [] = [] := rfl

@[simp] theorem sent_sending :
    sent (sending status payload :: events) = (status, payload) :: sent events := rfl

@[simp] theorem sent_received : sent (received status payload :: events) = sent events := rfl

@[simp] theorem sent_initial : sent (initial :: events) = sent events := rfl

@[simp] theorem sent_challenge : sent (challenge payload :: events) = sent events := rfl

@[simp] theorem heard_nil : heard [] = [] := rfl

@[simp] theorem heard_sending : heard (sending status payload :: events) = heard events := rfl

@[simp] theorem heard_received :
    heard (received status payload :: events) = (status, payload) :: heard events := rfl

@[simp] theorem heard_initial : heard (initial :: events) = heard events := rfl

@[simp] theorem heard_challenge : heard (challenge payload :: events) = heard events := rfl

/-- The bytes of the messages that are sent in some steps. -/
def sentBytes : Bytes :=
  (sent events).flatMap fun (status, payload) => message status payload

theorem sentBytes_append : sentBytes (events ++ later) = sentBytes events ++ sentBytes later := by
  simp [sentBytes, sent]

end Event

namespace Mechanism

variable {μ : Type} (m : Mechanism μ)

/-- The status of a message with a response that left the mechanism in the state `s`. -/
def status (s : μ) : Status :=
  if m.isComplete s then .complete else .ok

/-- What the mechanism does in the state `s` if a step asks it for a response. -/
def asked? (s : μ) : Event → Option (EStateM.Result Error μ Bytes)
  | .initial => some (m.initialResponse s)
  | .challenge payload => some (m.evaluate payload s)
  | .sending _ _ | .received _ _ => none

/-- The state of the mechanism after some steps. -/
def after (s : μ) (events : List Event) : μ :=
  events.foldl
    (fun s event =>
      match m.asked? s event with
      | some (.ok _ s') | some (.error _ s') => s'
      | none => s)
    s

variable {m} {s s' : μ} {events : List Event}

@[simp] theorem after_nil : m.after s [] = s := rfl

@[simp] theorem after_sending (status : Status) (payload : Bytes) :
    m.after s (.sending status payload :: events) = m.after s events := rfl

@[simp] theorem after_received (status : Status) (payload : Bytes) :
    m.after s (.received status payload :: events) = m.after s events := rfl

theorem after_challenge {payload response : Bytes} (h : m.evaluate payload s = .ok response s') :
    m.after s (.challenge payload :: events) = m.after s' events := by
  simp [after, asked?, h]

theorem after_initial {response : Bytes} (h : m.initialResponse s = .ok response s') :
    m.after s (.initial :: events) = m.after s' events := by
  simp [after, asked?, h]

theorem status_eq_complete_iff : m.status s = .complete ↔ m.isComplete s = true := by
  unfold status
  split <;> simp_all

end Mechanism

/-! ## Dialogues -/

section Dialogues

variable {μ : Type} (m : Mechanism μ)

/-- The ways in which a negotiation can go on once the client has sent its first response: `last`
is the status of the server's last message, `s` the state of the mechanism and `incoming` what comes
in; the steps that follow lead to `result` and leave the mechanism in `s'` and `rest` unread. -/
inductive Rounds :
    (last : Option Status) → (s : μ) → (incoming : Bytes) →
    List Event → (result : Except Error Unit) → (s' : μ) → (rest : Bytes) → Prop
  /-- Both sides are done. -/
  | done {s : μ} {incoming : Bytes} (complete : m.isComplete s = true) :
    Rounds (some .complete) s incoming [] (.ok ()) s incoming
  /-- The mechanism is done, and the server confirms. -/
  | confirmed {last : Option Status} {s : μ} {incoming payload rest : Bytes}
    (complete : m.isComplete s = true) (owed : last ≠ some .complete)
    (delivers : Delivers incoming .complete payload rest) :
    Rounds last s incoming [.received .complete payload] (.ok ()) s rest
  /-- The mechanism is done, and the server goes on. -/
  | unconfirmed {last : Option Status} {s : μ} {incoming payload rest : Bytes}
    (complete : m.isComplete s = true) (owed : last ≠ some .complete)
    (delivers : Delivers incoming .ok payload rest) :
    Rounds last s incoming [.received .ok payload]
      (.error (.metastore (.sasl (.notComplete .ok)))) s rest
  /-- A message of the server is due, and there is none that lets the negotiation go on. -/
  | cutOff {last : Option Status} {s : μ} {incoming rest : Bytes} {e : Error}
    (due : m.isComplete s = true → last ≠ some .complete)
    (failed : receive incoming = .error e rest) :
    Rounds last s incoming [] (.error e) s rest
  /-- The mechanism has no response to a message: the server is told. -/
  | gaveUp {last : Option Status} {s s' : μ} {incoming payload rest : Bytes} {status : Status}
    {e : Error} (incomplete : m.isComplete s = false)
    (delivers : Delivers incoming status payload rest)
    (failed : m.evaluate payload s = .error e s') :
    Rounds last s incoming
      [.received status payload, .challenge payload, .sending .error (Utf8.encode e.message)]
      (.error e) s' rest
  /-- A message that goes on is answered. -/
  | answered {last : Option Status} {s s' s'' : μ} {incoming payload rest response left : Bytes}
    {events : List Event} {result : Except Error Unit} (incomplete : m.isComplete s = false)
    (delivers : Delivers incoming .ok payload rest)
    (responds : m.evaluate payload s = .ok response s')
    (next : Rounds (some .ok) s' rest events result s'' left) :
    Rounds last s incoming
      (.received .ok payload :: .challenge payload :: .sending (m.status s') response :: events)
      result s'' left
  /-- The server's last message is taken in, and not answered. -/
  | takenIn {last : Option Status} {s s' s'' : μ} {incoming payload rest response left : Bytes}
    {events : List Event} {result : Except Error Unit} (incomplete : m.isComplete s = false)
    (delivers : Delivers incoming .complete payload rest)
    (responds : m.evaluate payload s = .ok response s')
    (next : Rounds (some .complete) s' rest events result s'' left) :
    Rounds last s incoming (.received .complete payload :: .challenge payload :: events)
      result s'' left

/-- The ways in which a negotiation can go, as `Rounds` from its beginning on. -/
inductive Dialogue (s : μ) (incoming : Bytes) :
    List Event → (result : Except Error Unit) → (s' : μ) → (rest : Bytes) → Prop
  /-- The mechanism has no initial response: the server is told. -/
  | unopened {s' : μ} {e : Error} (failed : m.initialResponse s = .error e s') :
    Dialogue s incoming
      [.sending .start (Utf8.encode m.name), .initial, .sending .error (Utf8.encode e.message)]
      (.error e) s' incoming
  | opened {s' s'' : μ} {response rest : Bytes} {events : List Event} {result : Except Error Unit}
    (responds : m.initialResponse s = .ok response s')
    (rounds : Rounds m none s' incoming events result s'' rest) :
    Dialogue s incoming
      (.sending .start (Utf8.encode m.name) :: .initial :: .sending (m.status s') response ::
        events)
      result s'' rest

end Dialogues

/-! ## The client -/

namespace Party

variable {μ : Type}

/-- The party after more steps, over a sink that takes everything. -/
def grown (p : Party μ) (mechanism : μ) (events : List Event) : Party μ :=
  { mechanism
    sink := { p.sink with sent := p.sink.sent ++ Event.sentBytes events }
    events := p.events ++ events }

theorem grown_nil (p : Party μ) : p.grown p.mechanism [] = p := by
  simp [grown, Event.sentBytes]

theorem grown_grown (p : Party μ) (s s' : μ) (events later : List Event) :
    (p.grown s events).grown s' later = p.grown s' (events ++ later) := by
  simp [grown, Event.sentBytes_append]

variable {p : Party μ}

theorem note_eq_grown {event : Event} (silent : event.sent? = none) :
    p.note event = p.grown p.mechanism [event] := by
  simp [note, grown, Event.sentBytes, Event.sent, silent]

theorem send_eq (unlimited : p.sink.room = none) (status : Status) (payload : Bytes) :
    p.send status payload = .ok () (p.grown p.mechanism [.sending status payload]) := by
  simp [send, note, Frame.write_of_unlimited unlimited, grown, Event.sentBytes]

theorem answer_eq (unlimited : p.sink.room = none) (m : Mechanism μ) (response : Bytes) :
    p.answer m response =
      .ok () (p.grown p.mechanism [.sending (m.status p.mechanism) response]) :=
  send_eq unlimited _ response

/-- A mechanism is asked for a response; if it has none, the server is told. -/
theorem ask_eq (unlimited : p.sink.room = none) (event : Event) (silent : event.sent? = none)
    (response : EStateM Error μ Bytes) :
    p.ask event response =
      match response p.mechanism with
      | .ok bytes s' => .ok bytes (p.grown s' [event])
      | .error e s' =>
        .error e (p.grown s' [event, .sending .error (Utf8.encode e.message)]) := by
  have told (e : Error) (s' : μ) :
      ({ p.grown p.mechanism [event] with mechanism := s' } : Party μ).send .error
          (Utf8.encode e.message) =
        .ok () (p.grown s' [event, .sending .error (Utf8.encode e.message)]) := by
    exact (send_eq (p := p.grown s' [event]) unlimited _ _).trans
      (congrArg (EStateM.Result.ok ()) (grown_grown p s' s' _ _))
  simp only [ask, note_eq_grown silent]
  cases asked : response p.mechanism with
  | ok bytes s' => simp only [grown, asked]
  | error e s' =>
    have same : (p.grown p.mechanism [event]).mechanism = p.mechanism := rfl
    simp only [same, asked, abort, told]

/-- The negotiation is opened: the name of the mechanism is sent, and its initial response. -/
theorem opening_eq (unlimited : p.sink.room = none) (m : Mechanism μ) :
    p.opening m =
      match m.initialResponse p.mechanism with
      | .error e s' =>
        .error e (p.grown s' [.sending .start (Utf8.encode m.name), .initial,
          .sending .error (Utf8.encode e.message)])
      | .ok response s' =>
        .ok () (p.grown s' [.sending .start (Utf8.encode m.name), .initial,
          .sending (m.status s') response]) := by
  have started := send_eq unlimited .start (Utf8.encode m.name)
  have asked := ask_eq (p := p.grown p.mechanism [.sending .start (Utf8.encode m.name)])
    unlimited .initial rfl m.initialResponse
  have same : (p.grown p.mechanism [.sending .start (Utf8.encode m.name)]).mechanism =
      p.mechanism := rfl
  simp only [opening, bind, EStateM.bind, started, asked, same]
  cases m.initialResponse p.mechanism with
  | error e s' => simp only [grown_grown, List.singleton_append]
  | ok response s' =>
    have answered := answer_eq
      (p := p.grown s' [.sending .start (Utf8.encode m.name), .initial]) unlimited m response
    simp only [grown_grown, List.singleton_append, answered]
    rfl

/-- A message of the server is taken in: it is given to the mechanism, and answered if it is not
the server's last. -/
theorem takeIn_eq (unlimited : p.sink.room = none) (m : Mechanism μ) (status : Status)
    (payload : Bytes) :
    p.takeIn m status payload =
      match m.evaluate payload p.mechanism with
      | .error e s' =>
        .error e (p.grown s' [.received status payload, .challenge payload,
          .sending .error (Utf8.encode e.message)])
      | .ok response s' =>
        .ok () (p.grown s' (if status = .complete then
          [.received status payload, .challenge payload]
        else
          [.received status payload, .challenge payload,
            .sending (m.status s') response])) := by
  have noted : (modify (·.note (.received status payload)) : EStateM Error (Party μ) Unit) p =
      .ok () (p.grown p.mechanism [.received status payload]) :=
    congrArg (EStateM.Result.ok ()) (note_eq_grown rfl)
  have asked := ask_eq (p := p.grown p.mechanism [.received status payload]) unlimited
    (.challenge payload) rfl (m.evaluate payload)
  have same : (p.grown p.mechanism [.received status payload]).mechanism = p.mechanism := rfl
  simp only [takeIn, bind, EStateM.bind, noted, asked, same]
  cases m.evaluate payload p.mechanism with
  | error e s' => simp only [grown_grown, List.singleton_append]
  | ok response s' =>
    simp only [grown_grown, List.singleton_append]
    by_cases last : status = .complete
    · simp only [last, if_true]
      rfl
    · have answered := answer_eq
        (p := p.grown s' [.received status payload, .challenge payload]) unlimited m response
      simp only [last, if_false, answered, grown_grown]
      rfl

end Party

namespace Negotiation

variable {μ : Type} {m : Mechanism μ} {last : Option Status} {party : Party μ}
  {incoming rest : Bytes}

theorem rounds_of_complete (complete : m.isComplete party.mechanism = true) :
    rounds m last party incoming = ⟨.ok last, party, incoming⟩ := by
  rw [rounds, if_pos complete]

theorem rounds_of_error {e : Error} (incomplete : m.isComplete party.mechanism = false)
    (failed : receive incoming = .error e rest) :
    rounds m last party incoming = ⟨.error e, party, rest⟩ := by
  rw [rounds, if_neg (Bool.eq_false_iff.1 incomplete)]
  split
  next e' rest' taken =>
    cases failed.symm.trans taken
    rfl
  next taken => cases failed.symm.trans taken

theorem rounds_of_delivers {status : Status} {payload : Bytes}
    (incomplete : m.isComplete party.mechanism = false)
    (delivers : Delivers incoming status payload rest) :
    rounds m last party incoming =
      match party.takeIn m status payload with
      | .error e party => ⟨.error e, party, rest⟩
      | .ok _ party => rounds m (some status) party rest := by
  have received := receive_eq_ok_iff.2 delivers
  rw [rounds, if_neg (Bool.eq_false_iff.1 incomplete)]
  split
  next taken => cases received.symm.trans taken
  next taken =>
    cases received.symm.trans taken
    rfl

/-- The negotiation once the client has sent its first response. -/
def goOn (m : Mechanism μ) (last : Option Status) (party : Party μ) (incoming : Bytes) :
    Negotiation μ Unit :=
  match rounds m last party incoming with
  | ⟨.error e, party, incoming⟩ => ⟨.error e, party, incoming⟩
  | ⟨.ok last, party, incoming⟩ => closing last party incoming

/-- A message of the server takes the negotiation one round further, unless the mechanism gives
up on it. -/
theorem goOn_of_delivers {status : Status} {payload : Bytes}
    (incomplete : m.isComplete party.mechanism = false)
    (delivers : Delivers incoming status payload rest) :
    goOn m last party incoming =
      match party.takeIn m status payload with
      | .error e party => ⟨.error e, party, rest⟩
      | .ok _ party => goOn m (some status) party rest := by
  unfold goOn
  rw [rounds_of_delivers incomplete delivers]
  cases party.takeIn m status payload <;> rfl

/-- **The rounds go in one of their ways**, over a sink that takes everything. -/
theorem exists_rounds (m : Mechanism μ) (last : Option Status) (party : Party μ)
    (incoming : Bytes) (unlimited : party.sink.room = none) :
    ∃ events result s' rest,
      Rounds m last party.mechanism incoming events result s' rest ∧
        goOn m last party incoming = ⟨result, party.grown s' events, rest⟩ := by
  -- Each round takes a message off what comes in, so the induction is on its length.
  induction length : incoming.length using Nat.strongRecOn
    generalizing last party incoming with
  | ind n ih =>
  cases complete : m.isComplete party.mechanism with
  | true =>
    have ended : goOn m last party incoming = closing last party incoming := by
      rw [goOn, rounds_of_complete complete]
    rw [ended, closing]
    by_cases confirmed : last = some .complete
    · subst confirmed
      exact ⟨_, _, _, _, .done complete, by rw [if_pos rfl, Party.grown_nil]⟩
    · rw [if_neg confirmed]
      cases taken : receive incoming with
      | error e rest =>
        exact ⟨_, _, _, _, .cutOff (fun _ => confirmed) taken, by rw [Party.grown_nil]⟩
      | ok message rest =>
        obtain ⟨status, payload⟩ := message
        have delivers := receive_eq_ok_iff.1 taken
        have noted : party.note (.received status payload) =
            party.grown party.mechanism [.received status payload] := Party.note_eq_grown rfl
        simp only [noted]
        rcases delivers.goesOn with rfl | rfl
        · exact ⟨_, _, _, _, .unconfirmed complete confirmed delivers, rfl⟩
        · exact ⟨_, _, _, _, .confirmed complete confirmed delivers, rfl⟩
  | false =>
    cases taken : receive incoming with
    | error e rest =>
      have due : m.isComplete party.mechanism = true → last ≠ some .complete := by
        simp [complete]
      exact ⟨_, _, _, _, .cutOff due taken,
        by rw [goOn, rounds_of_error complete taken, Party.grown_nil]⟩
    | ok message rest =>
      obtain ⟨status, payload⟩ := message
      have delivers := receive_eq_ok_iff.1 taken
      have shorter : rest.length < n := by
        have := length_of_receive taken
        omega
      rw [goOn_of_delivers complete delivers, Party.takeIn_eq unlimited]
      cases responds : m.evaluate payload party.mechanism with
      | error e s' => exact ⟨_, _, _, _, .gaveUp complete delivers responds, rfl⟩
      | ok response s' =>
        rcases delivers.goesOn with rfl | rfl
        · obtain ⟨events, result, s'', left, next, step⟩ := ih rest.length shorter (some .ok)
            (party.grown s' [.received .ok payload, .challenge payload,
              .sending (m.status s') response]) rest unlimited rfl
          refine ⟨_, _, _, _, .answered complete delivers responds next, ?_⟩
          simp only [reduceCtorEq, if_false, step, Party.grown_grown]
          rfl
        · obtain ⟨events, result, s'', left, next, step⟩ := ih rest.length shorter
            (some .complete)
            (party.grown s' [.received .complete payload, .challenge payload]) rest unlimited rfl
          refine ⟨_, _, _, _, .takenIn complete delivers responds next, ?_⟩
          simp only [if_true, step, Party.grown_grown]
          rfl

/-- **A negotiation is a dialogue**, over a stream that takes everything. -/
theorem exists_dialogue (m : Mechanism μ) (s : μ) (stream : Stream)
    (unlimited : stream.sink.room = none) :
    ∃ events result s' rest,
      Dialogue m s stream.incoming events result s' rest ∧
        run m s stream =
          ⟨result, Party.grown { mechanism := s, sink := stream.sink } s' events, rest⟩ := by
  have opened := Party.opening_eq (p := { mechanism := s, sink := stream.sink }) unlimited m
  unfold run
  rw [opened]
  cases responds : m.initialResponse s with
  | error e s' => exact ⟨_, _, _, _, .unopened responds, rfl⟩
  | ok response s' =>
    obtain ⟨events, result, s'', rest, rounds, step⟩ := exists_rounds m none
      (Party.grown { mechanism := s, sink := stream.sink } s'
        [.sending .start (Utf8.encode m.name), .initial, .sending (m.status s') response])
      stream.incoming unlimited
    rw [Party.grown_grown] at step
    exact ⟨_, _, _, _, .opened responds rounds, step⟩

end Negotiation

end Sasl

end MetastoreProbe
