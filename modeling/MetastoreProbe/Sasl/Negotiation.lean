import MetastoreProbe.Sasl.Stream
import MetastoreProbe.Text.Utf8

/-!
# SASL negotiation

Before a kerberized metastore answers calls, client and server authenticate: the client opens with
the name of its mechanism and an initial response, then answers the server's challenges until its
mechanism is complete, and the server confirms with a `complete` of its own.  Each message is a
status byte and a payload.

A `Mechanism` is any state machine that gives responses; `Negotiation.run` is the exchange.  Both
sides can be done first.  A client that is done sends `complete` and waits for the server's; a
server that is done is not answered any more, although its last payload is still handed to the
mechanism.  A failing mechanism is reported to the server once, and its error is the outcome even
where that report could not be sent.

`Party.events` records what was sent, received and asked, in order.  Every round takes a whole
message from what the server sends (`length_of_receive`), which is why the exchange ends.
-/

namespace MetastoreProbe

namespace Sasl

/-- The client side of a SASL mechanism with the state `μ`. -/
structure Mechanism (μ : Type) where
  /-- The name that the client opens with. -/
  name : String
  /-- The response that follows the name. -/
  initialResponse : EStateM Error μ Bytes
  /-- The response to a challenge. -/
  evaluate : Bytes → EStateM Error μ Bytes
  /-- Whether the client side is done. -/
  isComplete : μ → Bool

/-! ## Messages -/

/-- A negotiation message. -/
def message (status : Status) (payload : Bytes) : Bytes :=
  status.byte :: (BigEndian.encode 4 payload.length ++ payload)

/-- The server's next message, if it lets the negotiation go on. -/
def receive : Scan UInt8 Error (Status × Bytes) := do
  let byte ← Scan.next (.io .endOfFile)
  match Status.ofByte? byte with
  | none => throw (.metastore (.sasl (.unknownStatus byte)))
  | some status =>
    let payload ← Frame.payload
    match status with
    | .ok | .complete => return (status, payload)
    | .bad | .error =>
      throw (.metastore (.sasl (.rejected status (Utf8.decodeLossy payload))))
    | .start => throw (.metastore (.sasl .unexpectedStart))

theorem length_of_payload {input rest payload : Bytes}
    (h : Frame.payload input = .ok payload rest) :
    rest.length + (4 + payload.length) = input.length := by
  obtain ⟨header, afterHeader, taken, h⟩ := Scan.bind_eq_ok_iff.1 h
  have headerLength := Scan.length_of_take taken
  split at h
  · cases h
  · have payloadLength := Scan.length_of_take h
    omega

/-- **Receiving a message takes the whole of it**: the status, the length and the payload. -/
theorem length_of_receive {input rest : Bytes} {status : Status} {payload : Bytes}
    (h : receive input = .ok (status, payload) rest) :
    rest.length + (5 + payload.length) = input.length := by
  obtain ⟨byte, afterByte, first, h⟩ := Scan.bind_eq_ok_iff.1 h
  have := Scan.length_of_next first
  cases known : Status.ofByte? byte with
  | none => simp [known] at h
  | some status =>
    simp only [known] at h
    obtain ⟨received, afterPayload, read, h⟩ := Scan.bind_eq_ok_iff.1 h
    have := length_of_payload read
    cases status <;> cases h <;> omega

/-! ## The client's side -/

/-- A step of a negotiation. -/
inductive Event
  /-- The client set out to send a message; a limited sink may not have taken all of it. -/
  | sending (status : Status) (payload : Bytes)
  | received (status : Status) (payload : Bytes)
  /-- The mechanism was asked for its initial response. -/
  | initial
  /-- The mechanism was given a challenge. -/
  | challenge (payload : Bytes)
  deriving DecidableEq, Repr

/-- The client's side of a negotiation. -/
structure Party (μ : Type) where
  /-- The state of the mechanism. -/
  mechanism : μ
  sink : Sink
  /-- What has happened, the first step first. -/
  events : List Event := []

namespace Party

variable {μ : Type}

/-- Records a step. -/
def note (p : Party μ) (event : Event) : Party μ :=
  { p with events := p.events ++ [event] }

/-- Sends a message. -/
def send (status : Status) (payload : Bytes) : EStateM Error (Party μ) Unit := fun p =>
  let p := p.note (.sending status payload)
  match p.sink.write (message status payload) with
  | .ok _ sink => .ok () { p with sink }
  | .error e sink => .error e { p with sink }

/-- Reports a failure of the mechanism to the server.  The failure stays the outcome, whether or
not the report could be sent. -/
def abort {α : Type} (e : Error) : EStateM Error (Party μ) α := fun p =>
  match p.send .error (Utf8.encode e.message) with
  | .ok _ p | .error _ p => .error e p

/-- Asks the mechanism for a response, and gives up if it has none. -/
def ask (event : Event) (response : EStateM Error μ Bytes) : EStateM Error (Party μ) Bytes :=
  fun p =>
    let p := p.note event
    match response p.mechanism with
    | .ok bytes mechanism => .ok bytes { p with mechanism }
    | .error e mechanism => abort e { p with mechanism }

/-- Sends a response of the mechanism, which also tells whether the mechanism is done. -/
def answer (m : Mechanism μ) (response : Bytes) : EStateM Error (Party μ) Unit := fun p =>
  p.send (if m.isComplete p.mechanism then .complete else .ok) response

/-- Opens the negotiation: the name of the mechanism, and its initial response. -/
def opening (m : Mechanism μ) : EStateM Error (Party μ) Unit := do
  send .start (Utf8.encode m.name)
  answer m (← ask .initial m.initialResponse)

/-- Takes in a message of the server.  One that is not its last is answered. -/
def takeIn (m : Mechanism μ) (status : Status) (payload : Bytes) :
    EStateM Error (Party μ) Unit := do
  modify (·.note (.received status payload))
  let response ← ask (.challenge payload) (m.evaluate payload)
  if status = .complete then return () else answer m response

end Party

/-! ## The exchange -/

/-- How far a negotiation has come. -/
structure Negotiation (μ α : Type) where
  result : Except Error α
  party : Party μ
  /-- What the server sends beyond what was read. -/
  incoming : Bytes

namespace Negotiation

variable {μ : Type}

/-- The stream after a negotiation. -/
def stream {α : Type} (n : Negotiation μ α) : Stream :=
  { incoming := n.incoming, sink := n.party.sink }

/-- Answers challenges until the mechanism is done; the result is the status of the server's last
message, if there was one. -/
def rounds (m : Mechanism μ) (last : Option Status) (party : Party μ) (incoming : Bytes) :
    Negotiation μ (Option Status) :=
  if m.isComplete party.mechanism then ⟨.ok last, party, incoming⟩
  else
    match taken : receive incoming with
    | .error e rest => ⟨.error e, party, rest⟩
    | .ok (status, payload) rest =>
      have : rest.length < incoming.length := by
        have := length_of_receive taken
        omega
      match party.takeIn m status payload with
      | .error e party => ⟨.error e, party, rest⟩
      | .ok _ party => rounds m (some status) party rest
termination_by incoming.length

/-- Waits for the server's `complete`, unless that was its last message already. -/
def closing (last : Option Status) (party : Party μ) (incoming : Bytes) : Negotiation μ Unit :=
  if last = some .complete then ⟨.ok (), party, incoming⟩
  else
    match receive incoming with
    | .error e rest => ⟨.error e, party, rest⟩
    | .ok (status, payload) rest =>
      let party := party.note (.received status payload)
      if status = .complete then ⟨.ok (), party, rest⟩
      else ⟨.error (.metastore (.sasl (.notComplete status))), party, rest⟩

/-- The client's side of a negotiation over a stream, from the first message to the server's
`complete`. -/
def run (m : Mechanism μ) (mechanism : μ) (stream : Stream) : Negotiation μ Unit :=
  match Party.opening m { mechanism, sink := stream.sink } with
  | .error e party => ⟨.error e, party, stream.incoming⟩
  | .ok _ party =>
    match rounds m none party stream.incoming with
    | ⟨.error e, party, incoming⟩ => ⟨.error e, party, incoming⟩
    | ⟨.ok last, party, incoming⟩ => closing last party incoming

end Negotiation

end Sasl

end MetastoreProbe
