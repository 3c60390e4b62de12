import MetastoreProbe.Client.Sasl
import MetastoreProbe.Proofs.Client.Session
import MetastoreProbe.Proofs.Sasl.Frame

/-!
# The client over frames

Over a connection the client sees bytes, but what it does can be told in frames.  `SaslClient.Ready`
relates a client to the number of its next request and to the replies that are still to come, and
`SaslClient.make_of_ready` is the step of the simulation: a call takes one number and one reply,
whatever the reply says and whatever the call comes to.  `SaslClient.makeAll_eq_frames` is the law
of a whole run: the calls are numbered in order, the `k`-th one is written as one frame, and it is
answered from the `k`-th reply alone (`Request.answered`).
-/

namespace MetastoreProbe

/-! ## Calls in turn -/

/-- Makes a call and goes on, whatever it comes to. -/
def Client.make {σ : Type} (client : Client σ) (call : Call) (s : Session σ) : Session σ :=
  match call with
  | .createDatabase name =>
    Session.leftBy (Session.call (client.createDatabase name) (.createDatabase name) s)
  | .createTable table =>
    Session.leftBy (Session.call (client.createTable table) (.createTable table) s)
  | .getSchema database table =>
    Session.leftBy
      (Session.call (client.getSchema database table) (.getSchema database table) s)
  | .close => Session.leftBy (Session.call client.close .close s)

namespace Request

/-- The call that a request stands for. -/
def call : Request → Call
  | createDatabase name => .createDatabase name
  | createTable table _ => .createTable table
  | getSchema database table => .getSchema database table

/-- The time at which the call of a request is made, where the request tells it. -/
def time : Request → Int32
  | createTable _ createTime => createTime
  | createDatabase _ | getSchema _ _ => 0

/-- How the call of a request with the given number ends, judged from what was received: the reply
is decoded and mapped to an outcome, and a failure to receive one is the failure of the call. -/
def answered (request : Request) (number : Int32) (received : Except Error Bytes) : Exchange :=
  match request with
  | createDatabase name =>
    .createDatabase name (received.bind (SaslClient.createResult .createDatabase number))
  | createTable table _ =>
    .createTable table (received.bind (SaslClient.createResult .createTable number))
  | getSchema database table =>
    .getSchema database table (received.bind (SaslClient.schemaResult number))

end Request

namespace SaslClient

/-- Makes the calls of requests in turn, each at its own time and whatever those before it came
to. -/
def makeAll (requests : List Request) (s : Session SaslClient) : Session SaslClient :=
  requests.foldl (fun s request => (client request.time).make request.call s) s

/-! ## The simulation -/

/-- What the call with the index `k` receives: the reply with the same index, or the end of the
input. -/
def received (replies : List Bytes) (k : Nat) : Except Error Bytes :=
  match replies[k]? with
  | some reply => .ok reply
  | none => .error (.io .endOfFile)

theorem received_tail (replies : List Bytes) (k : Nat) :
    received replies.tail k = received replies (k + 1) := by
  rw [received, received, List.getElem?_tail]

/-- The client is open and writes without a limit, its next request has the number `n`, and what
comes in are the frames of `replies`. -/
structure Ready (c : SaslClient) (n : Nat) (replies : List Bytes) : Prop where
  isOpen : c.closed = false
  unlimited : c.stream.sink.room = none
  numbered : c.sequence = Int32.ofNat n
  aligned : c.stream.incoming = replies.flatMap Frame.bytes

/-- The client after a request was sent and `rest` was left of what comes in. -/
def sent (c : SaslClient) (request rest : Bytes) : SaslClient :=
  { c with
    stream :=
      { incoming := rest
        sink := { c.stream.sink with sent := c.stream.sink.sent ++ Frame.bytes request } } }

/-- Of what comes in, one frame is received, and the frames behind it are left. -/
theorem payload_flatMap_bytes {replies : List Bytes}
    (accepted : ∀ reply ∈ replies, reply.length ≤ maxFrameLength) :
    Frame.payload (replies.flatMap Frame.bytes) =
      match received replies 0 with
      | .ok reply => .ok reply (replies.tail.flatMap Frame.bytes)
      | .error e => .error e (replies.tail.flatMap Frame.bytes) := by
  cases replies with
  | nil => exact Frame.payload_nil
  | cons reply replies =>
    rw [List.flatMap_cons]
    exact Frame.payload_bytes_append (accepted reply List.mem_cons_self) _

/-- What comes in starts with a payload, or has none, and `rest` is left of it. -/
def Receives (c : SaslClient) (received : Except Error Bytes) (rest : Bytes) : Prop :=
  Frame.payload c.stream.incoming =
    match received with
    | .ok reply => .ok reply rest
    | .error e => .error e rest

/-- **A request is exchanged for what comes in next**, whatever that is. -/
theorem exchange_of_receives {c : SaslClient} (isOpen : c.closed = false)
    (unlimited : c.stream.sink.room = none) {received : Except Error Bytes} {rest : Bytes}
    (receives : c.Receives received rest) (request : Bytes) :
    exchange request c = result received (c.sent request rest) := by
  have goesOn : ¬ c.closed = true := by simp [isOpen]
  unfold Receives at receives
  unfold exchange
  rw [if_neg goesOn, Frame.write_eq unlimited]
  simp only [Frame.read, Stream.read, receives]
  cases received <;> rfl

/-- Every operation takes the next number, makes the exchange of a request that carries it, and
comes to what is read from what was received. -/
theorem operation_of_exchange {α : Type} {c c' : SaslClient} (request : Int32 → Bytes)
    {received : Except Error Bytes}
    (exchanged : exchange (request c.sequence) { c with sequence := c.sequence + 1 } =
      result received c') (read : Int32 → Bytes → Except Error α) :
    (do
        let number ← number
        let reply ← exchange (request number)
        result (read number reply)) c =
      result (received.bind (read c.sequence)) c' := by
  simp only [number, bind, EStateM.bind] at exchanged ⊢
  rw [exchanged]
  cases received <;> rfl

theorem operation_of_receives {α : Type} {c : SaslClient} (isOpen : c.closed = false)
    (unlimited : c.stream.sink.room = none) {received : Except Error Bytes} {rest : Bytes}
    (receives : c.Receives received rest) (request : Int32 → Bytes)
    (read : Int32 → Bytes → Except Error α) :
    (do
        let number ← number
        let reply ← exchange (request number)
        result (read number reply)) c =
      result (received.bind (read c.sequence))
        ({ c with sequence := c.sequence + 1 }.sent (request c.sequence) rest) := by
  have numbered : { c with sequence := c.sequence + 1 }.Receives received rest := receives
  have exchanged := exchange_of_receives (c := { c with sequence := c.sequence + 1 }) isOpen
    unlimited numbered (request c.sequence)
  exact operation_of_exchange request exchanged read

theorem Ready.receives {c : SaslClient} {n : Nat} {replies : List Bytes}
    (ready : c.Ready n replies) (accepted : ∀ reply ∈ replies, reply.length ≤ maxFrameLength) :
    c.Receives (received replies 0) (replies.tail.flatMap Frame.bytes) := by
  unfold Receives
  rw [ready.aligned]
  exact payload_flatMap_bytes accepted

/-- The client after it took a number, sent the request that carries it and received what there
is of the next reply. -/
def used (c : SaslClient) (request : Bytes) (replies : List Bytes) : SaslClient :=
  { c with sequence := c.sequence + 1 }.sent request (replies.tail.flatMap Frame.bytes)

theorem Ready.used {c : SaslClient} {n : Nat} {replies : List Bytes} (ready : c.Ready n replies)
    (request : Bytes) : (c.used request replies).Ready (n + 1) replies.tail where
  isOpen := ready.isOpen
  unlimited := ready.unlimited
  numbered := by simp [SaslClient.used, sent, ready.numbered]
  aligned := rfl

/-- A call that comes to `answer` is recorded with it. -/
theorem leftBy_call {α : Type} {operation : EStateM Error SaslClient α} {s : Session SaslClient}
    {answer : Except Error α} {c : SaslClient} (h : operation s.client = result answer c)
    (record : Except Error α → Exchange) :
    Session.leftBy (Session.call operation record s) =
      { s with client := c, exchanges := s.exchanges ++ [record answer] } := by
  unfold Session.call
  rw [h]
  cases answer <;> rfl

/-- A call takes the next number, and is answered from what its exchange received. -/
theorem make_of_exchange {s : Session SaslClient} {c : SaslClient} {request : Request}
    {received : Except Error Bytes}
    (exchanged : exchange (request.encode s.client.sequence)
      { s.client with sequence := s.client.sequence + 1 } = result received c) :
    (client request.time).make request.call s =
      { s with
        client := c
        exchanges := s.exchanges ++ [request.answered s.client.sequence received] } := by
  cases request with
  | createDatabase name =>
    have operation := operation_of_exchange
      (fun number => (Request.createDatabase name).encode number) exchanged
      (createResult .createDatabase)
    exact leftBy_call operation (.createDatabase name)
  | createTable table time =>
    have operation := operation_of_exchange
      (fun number => (Request.createTable table time).encode number) exchanged
      (createResult .createTable)
    exact leftBy_call operation (.createTable table)
  | getSchema database table =>
    have operation := operation_of_exchange
      (fun number => (Request.getSchema database table).encode number) exchanged
      schemaResult
    exact leftBy_call operation (.getSchema database table)

/-- **The step of the simulation.**  A call takes the next number and is answered from the next
reply. -/
theorem make_of_ready {s : Session SaslClient} {n : Nat} {replies : List Bytes}
    (ready : s.client.Ready n replies)
    (accepted : ∀ reply ∈ replies, reply.length ≤ maxFrameLength) (request : Request) :
    (client request.time).make request.call s =
      { s with
        client := s.client.used (request.encode (Int32.ofNat n)) replies
        exchanges := s.exchanges ++ [request.answered (Int32.ofNat n) (received replies 0)] } := by
  have numbered : { s.client with sequence := s.client.sequence + 1 }.Receives
      (received replies 0) (replies.tail.flatMap Frame.bytes) := ready.receives accepted
  rw [← ready.numbered]
  have exchanged := exchange_of_receives
    (c := { s.client with sequence := s.client.sequence + 1 }) ready.isOpen ready.unlimited
    numbered (request.encode s.client.sequence)
  exact make_of_exchange exchanged

/-! ## Runs -/

/-- The frames that carry some requests, numbered from `n` on. -/
def frames (n : Nat) (requests : List Request) : Bytes :=
  (requests.mapIdx fun k request => Frame.bytes (request.encode (Int32.ofNat (n + k)))).flatten

/-- The exchanges of some requests, numbered from `n` on, with one reply for each. -/
def answers (n : Nat) (requests : List Request) (replies : List Bytes) : List Exchange :=
  requests.mapIdx fun k request => request.answered (Int32.ofNat (n + k)) (received replies k)

theorem frames_cons (n : Nat) (request : Request) (requests : List Request) :
    frames n (request :: requests) =
      Frame.bytes (request.encode (Int32.ofNat n)) ++ frames (n + 1) requests := by
  simp only [frames, List.mapIdx_cons, List.flatten_cons, Nat.add_zero, Nat.add_right_comm,
    Nat.add_assoc]

theorem answers_cons (n : Nat) (request : Request) (requests : List Request)
    (replies : List Bytes) :
    answers n (request :: requests) replies =
      request.answered (Int32.ofNat n) (received replies 0) ::
        answers (n + 1) requests replies.tail := by
  simp only [answers, List.mapIdx_cons, received_tail, Nat.add_zero, Nat.add_right_comm,
    Nat.add_assoc]

/-- From a client that is ready, the calls go on frame by frame. -/
theorem makeAll_of_ready {s : Session SaslClient} {n : Nat} {replies : List Bytes}
    (ready : s.client.Ready n replies)
    (accepted : ∀ reply ∈ replies, reply.length ≤ maxFrameLength) (requests : List Request) :
    (makeAll requests s).client.Ready (n + requests.length) (replies.drop requests.length) ∧
      (makeAll requests s).client.stream.sink.sent =
        s.client.stream.sink.sent ++ frames n requests ∧
      (makeAll requests s).exchanges = s.exchanges ++ answers n requests replies := by
  -- `Ready` is all that a call needs to find, and a call leaves it behind for the next one even if
  -- its reply was bad or missing.
  induction requests generalizing s n replies with
  | nil => simpa [makeAll, frames, answers] using ready
  | cons request requests ih =>
    have step := make_of_ready ready accepted request
    have ready' := ready.used (request.encode (Int32.ofNat n))
    have accepted' : ∀ reply ∈ replies.tail, reply.length ≤ maxFrameLength :=
      fun reply mem => accepted reply (List.mem_of_mem_tail mem)
    have run : makeAll (request :: requests) s =
        makeAll requests ((client request.time).make request.call s) := rfl
    rw [run, step]
    obtain ⟨ready'', hsent, hexchanges⟩ := ih
      (s := { s with
        client := s.client.used (request.encode (Int32.ofNat n)) replies
        exchanges := s.exchanges ++ [request.answered (Int32.ofNat n) (received replies 0)] })
      ready' accepted'
    refine ⟨?_, ?_, ?_⟩
    · rw [List.drop_tail, Nat.add_right_comm] at ready''
      exact ready''
    · rw [hsent, frames_cons, ← List.append_assoc]
      rfl
    · rw [hexchanges, answers_cons, List.append_assoc]
      rfl

/-- **Over a byte stream the client is a client of frames.**  A fresh client numbers its calls
from 1 on and writes one frame for each; the `k`-th call is answered from the `k`-th reply alone,
or with the end of the input where there is none; and what was not asked for stays unread. -/
theorem makeAll_eq_frames (requests : List Request) (replies : List Bytes) (sink : Sink)
    (unlimited : sink.room = none)
    (accepted : ∀ reply ∈ replies, reply.length ≤ maxFrameLength) :
    let incoming := replies.flatMap Frame.bytes
    let left := makeAll requests { client := { stream := { incoming, sink } } }
    left.client.stream.sink.sent = sink.sent ++ frames 1 requests ∧
      left.exchanges = answers 1 requests replies ∧
      left.client.stream.incoming = (replies.drop requests.length).flatMap Frame.bytes := by
  intro incoming left
  have fresh : ({ stream := { incoming, sink } } : SaslClient).Ready 1 replies :=
    ⟨rfl, unlimited, rfl, rfl⟩
  obtain ⟨ready, hsent, hexchanges⟩ :=
    makeAll_of_ready (s := { client := { stream := { incoming, sink } } }) fresh accepted requests
  exact ⟨hsent, hexchanges, ready.aligned⟩

/-- A reply that cannot be read is used up by its call, and the next call finds the end. -/
theorem makeAll_eq_frames_of_broken_reply :
    let left := makeAll [.createDatabase "d", .getSchema "d" "t"]
      { client := { stream := { incoming := [[255]].flatMap Frame.bytes } } }
    left.exchanges =
      [.createDatabase "d" (.error (.metastore (.transport (.wire .endOfFile)))),
        .getSchema "d" "t" (.error (.io .endOfFile))] := by
  intro left
  exact (makeAll_eq_frames [.createDatabase "d", .getSchema "d" "t"] [[255]] {} rfl
    (by decide)).2.1

end SaslClient

end MetastoreProbe
