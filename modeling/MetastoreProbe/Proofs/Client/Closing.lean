import MetastoreProbe.Client.Plain
import MetastoreProbe.Proofs.Client.Exchange
import MetastoreProbe.Proofs.Client.Frames

/-!
# Closing a client is final

A client that is closed stays closed.  Closing it succeeds, also where the stream cannot be shut
down; every later call is refused, and closing it again does nothing.  Neither client touches its
connection any more: the link is not asked, and of the stream nothing is read, nothing is written,
and its end was announced once, by the first close.

Each client keeps that it is closed in its own way, so what the two have in common is said of any
client (`Client.ClosesForGood`), and a run of calls is followed once for both
(`Client.ClosesForGood.makeInTurn_of_close`).  How often the stream was shut down is counted along
the run by an invariant, that it was once more than at first just when the client is closed
(`SaslClient.shutdowns_makeInTurn`); calls keep it because they leave both of its sides alone
(`Keeps`).
-/

namespace MetastoreProbe

variable {σ κ α β : Type}

/-! ## What operations leave alone -/

/-- The state that an operation left, whatever it came to. -/
def stateOf : EStateM.Result Error σ α → σ
  | .ok _ s => s
  | .error _ s => s

@[simp] theorem stateOf_ok (a : α) (s : σ) : stateOf (.ok a s) = s := rfl

@[simp] theorem stateOf_error (e : Error) (s : σ) :
    stateOf (.error e s : EStateM.Result Error σ α) = s := rfl

/-- Whatever the operation comes to, the view of the state is the same afterwards. -/
def Keeps (view : σ → κ) (operation : EStateM Error σ α) : Prop :=
  ∀ s, view (stateOf (operation s)) = view s

namespace Keeps

variable {view : σ → κ}

theorem pure (a : α) : Keeps view (Pure.pure a : EStateM Error σ α) := fun _ => rfl

theorem throw (e : Error) : Keeps view (throwThe Error e : EStateM Error σ α) := fun _ => rfl

theorem bind {p : EStateM Error σ α} {f : α → EStateM Error σ β} (first : Keeps view p)
    (next : ∀ a, Keeps view (f a)) : Keeps view (p >>= f) := by
  intro s
  have kept := first s
  simp only [Bind.bind, EStateM.bind]
  cases h : p s with
  | error e middle =>
    rw [h] at kept
    exact kept
  | ok a middle =>
    rw [h] at kept
    exact (next a middle).trans kept

end Keeps

theorem Sink.keeps_write (xs : Bytes) : Keeps Sink.shutdowns (Sink.write xs) := by
  intro s
  unfold write
  cases s.room with
  | none => rfl
  | some room => by_cases fits : xs.length ≤ room <;> simp [fits]

/-- What acting on the sink leaves alone there, it leaves alone in the stream. -/
theorem Stream.keeps_send {view : Sink → κ} {action : EStateM Error Sink α}
    (keeps : Keeps view action) : Keeps (fun s : Stream => view s.sink) (Stream.send action) := by
  intro s
  have kept := keeps s.sink
  unfold send
  cases h : action s.sink with
  | ok a sink | error e sink =>
    rw [h] at kept
    exact kept

/-- Reading leaves the sink alone. -/
theorem Stream.keeps_read (scan : Scan UInt8 Error α) : Keeps Stream.sink (Stream.read scan) := by
  intro s
  unfold read
  cases scan s.incoming <;> rfl

/-! ## Calls in turn -/

/-- Makes calls in turn, each at its own time and whatever those before it came to. -/
def Client.makeInTurn (client : Int32 → Client σ) (calls : List (Int32 × Call)) (s : Session σ) :
    Session σ :=
  calls.foldl (fun s (now, call) => (client now).make call s) s

/-- How a closed client answers: it is closed again, and makes no call. -/
def Call.refused : Call → Exchange
  | .createDatabase name => .createDatabase name (.error (.metastore .closed))
  | .createTable table => .createTable table (.error (.metastore .closed))
  | .getSchema database table => .getSchema database table (.error (.metastore .closed))
  | .close => .close (.ok ())

/-- The session after an exchange that left the client in the state `c`. -/
def Session.after (s : Session σ) (x : Exchange) (c : σ) : Session σ :=
  { s with client := c, exchanges := s.exchanges ++ [x] }

/-- The client closes for good: closing it succeeds, and once it is closed it refuses every call,
stays closed, and leaves its connection alone. -/
structure Client.ClosesForGood (client : Int32 → Client σ) (closed : σ → Prop)
    (connection : σ → κ) : Prop where
  closes : ∀ (now : Int32) (s : Session σ), ∃ c,
    (client now).make .close s = s.after (.close (.ok ())) c ∧ closed c
  refuses : ∀ (now : Int32) (call : Call) (s : Session σ), closed s.client → ∃ c,
    (client now).make call s = s.after call.refused c ∧ closed c ∧
      connection c = connection s.client

namespace Client

variable {client : Int32 → Client σ} {closed : σ → Prop} {connection : σ → κ}

theorem makeInTurn_cons (client : Int32 → Client σ) (now : Int32) (call : Call)
    (calls : List (Int32 × Call)) (s : Session σ) :
    makeInTurn client ((now, call) :: calls) s =
      makeInTurn client calls ((client now).make call s) := rfl

theorem makeInTurn_append (client : Int32 → Client σ) (calls more : List (Int32 × Call))
    (s : Session σ) :
    makeInTurn client (calls ++ more) s = makeInTurn client more (makeInTurn client calls s) :=
  List.foldl_append

/-- **A closed client refuses all calls** and leaves its connection alone. -/
theorem ClosesForGood.makeInTurn_of_closed (h : ClosesForGood client closed connection)
    (calls : List (Int32 × Call)) {s : Session σ} (isClosed : closed s.client) :
    (makeInTurn client calls s).exchanges = s.exchanges ++ calls.map (·.2.refused) ∧
      connection (makeInTurn client calls s).client = connection s.client := by
  induction calls generalizing s with
  | nil => exact ⟨(List.append_nil _).symm, rfl⟩
  | cons first calls ih =>
    obtain ⟨now, call⟩ := first
    obtain ⟨c, made, isClosed', left⟩ := h.refuses now call s isClosed
    obtain ⟨answers, left'⟩ := ih (s := s.after call.refused c) isClosed'
    rw [makeInTurn_cons, made]
    constructor
    · rw [answers]
      exact (List.append_cons _ _ _).symm
    · exact left'.trans left

/-- **From a close on, a client is closed**, whatever came before: the close succeeds, and what
follows it is refused and does nothing on the connection. -/
theorem ClosesForGood.makeInTurn_of_close (h : ClosesForGood client closed connection)
    (before after : List (Int32 × Call)) (now : Int32) (s : Session σ) :
    let opened := makeInTurn client before s
    let left := makeInTurn client (before ++ (now, .close) :: after) s
    left.exchanges = opened.exchanges ++ .close (.ok ()) :: after.map (·.2.refused) ∧
      connection left.client = connection ((client now).make .close opened).client := by
  intro opened left
  have run : left = makeInTurn client after ((client now).make .close opened) := by
    rw [← makeInTurn_cons, ← makeInTurn_append]
  obtain ⟨c, made, isClosed⟩ := h.closes now opened
  rw [made] at run ⊢
  obtain ⟨answers, alone⟩ := h.makeInTurn_of_closed (s := opened.after (.close (.ok ())) c) after
    isClosed
  rw [run]
  constructor
  · rw [answers]
    exact (List.append_cons _ _ _).symm
  · exact alone

end Client

/-! ## Over a plain connection -/

namespace PlainClient

open Client

variable (link : PlainLink σ)

/-- Closing the client leaves the link alone. -/
theorem make_close (now : Int32) (s : Session (PlainClient σ)) :
    (client link now).make .close s =
      s.after (.close (.ok ())) { s.client with closed := true } := rfl

theorem call_of_closed {δ : Type} {c : PlainClient σ} (isClosed : c.closed = true)
    (send : StateM σ δ) (outcome : δ → Except Error α) :
    call send outcome c = .error (.metastore .closed) c :=
  if_pos isClosed

theorem closesForGood :
    ClosesForGood (client link) (fun c => c.closed = true) (fun c => c.link) where
  closes now s := ⟨_, make_close link now s, rfl⟩
  refuses now call s isClosed := by
    refine ⟨{ s.client with closed := true }, ?_, rfl, rfl⟩
    have same : { s.client with closed := true } = s.client := by rw [← isClosed]
    rw [same]
    cases call with
    | createDatabase name | createTable table | getSchema database table =>
      simp only [make, client, Session.call, call_of_closed isClosed]
      rfl
    | close =>
      rw [make_close, same]
      rfl

end PlainClient

/-! ## Over frames -/

namespace SaslClient

open Client

/-- What a call leaves alone: whether the client is closed, and how often the stream was shut
down. -/
def shutState (c : SaslClient) : Bool × Nat :=
  (c.closed, c.stream.sink.shutdowns)

theorem keeps_send (request : Bytes) : Keeps shutState (send request) := by
  intro c
  have written := Stream.keeps_send
    ((Sink.keeps_write (BigEndian.encode 4 request.length)).bind fun _ => Sink.keeps_write request)
    c.stream
  unfold send
  by_cases isClosed : c.closed = true
  · rw [if_pos isClosed]
    rfl
  · rw [if_neg isClosed, Frame.write]
    cases h : Stream.send (do
        Sink.write (BigEndian.encode 4 request.length)
        Sink.write request) c.stream with
    | ok a stream | error e stream =>
      rw [h] at written
      exact congrArg (Prod.mk c.closed) written

theorem keeps_receive : Keeps shutState receive := by
  intro c
  have received := Stream.keeps_read Frame.payload c.stream
  unfold receive Frame.read
  cases h : Stream.read Frame.payload c.stream with
  | ok reply stream | error e stream =>
    rw [h] at received
    exact congrArg (fun sink : Sink => (c.closed, sink.shutdowns)) received

theorem keeps_exchange (request : Bytes) : Keeps shutState (exchange request) := by
  rw [exchange_eq]
  exact (keeps_send request).bind fun _ => keeps_receive

theorem keeps_result (answer : Except Error α) : Keeps shutState (result answer) := by
  cases answer with
  | ok a => exact .pure a
  | error e => exact .throw e

theorem keeps_create (request : Request) (sequence : Int32) :
    Keeps shutState (create request sequence) :=
  (keeps_exchange _).bind fun _ => keeps_result _

theorem keeps_schema (database table : String) (sequence : Int32) :
    Keeps shutState (schema database table sequence) :=
  (keeps_exchange _).bind fun _ => keeps_result _

theorem keeps_number : Keeps shutState number := fun _ => rfl

/-- A call other than a close neither closes the client nor shuts the stream down. -/
theorem shutState_make (now : Int32) {call : Call} (other : call ≠ .close)
    (s : Session SaslClient) :
    shutState ((client now).make call s).client = shutState s.client := by
  have left {α : Type} (operation : EStateM Error SaslClient α) (record : Except Error α → Exchange)
      (keeps : Keeps shutState operation) :
      shutState (Session.leftBy (Session.call operation record s)).client =
        shutState s.client := by
    have kept := keeps s.client
    unfold Session.call
    cases h : operation s.client with
    | ok a c | error e c =>
      rw [h] at kept
      exact kept
  cases call with
  | createDatabase name => exact left _ _ (keeps_number.bind fun _ => keeps_create _ _)
  | createTable table => exact left _ _ (keeps_number.bind fun _ => keeps_create _ _)
  | getSchema database table => exact left _ _ (keeps_number.bind fun _ => keeps_schema _ _ _)
  | close => exact absurd rfl other

/-- The client after it was closed: an open one shuts its stream down. -/
def shut (c : SaslClient) : SaslClient :=
  if c.closed then c
  else
    { c with
      stream := { c.stream with sink := { c.stream.sink with
        shutdowns := c.stream.sink.shutdowns + 1 } }
      closed := true }

theorem closed_shut (c : SaslClient) : c.shut.closed = true := by
  unfold shut
  by_cases isClosed : c.closed = true
  · rw [if_pos isClosed, isClosed]
  · rw [if_neg isClosed]

/-- **A close succeeds**, also where the stream cannot be shut down. -/
theorem make_close (now : Int32) (s : Session SaslClient) :
    (client now).make .close s = s.after (.close (.ok ())) s.client.shut := by
  have closes : close s.client = .ok () s.client.shut := by
    unfold close shut
    by_cases isClosed : s.client.closed = true
    · rw [if_pos isClosed, if_pos isClosed]
    · rw [if_neg isClosed, if_neg isClosed]
      by_cases fails : s.client.stream.sink.shutdownFails = true <;>
        simp [Stream.send, Sink.shutDown, fails]
  simp only [make, client, Session.call, closes]
  rfl

/-- A closed client uses up a number for a call, and nothing else. -/
theorem exchange_of_closed {c : SaslClient} (isClosed : c.closed = true) (request : Bytes) :
    exchange request c = result (.error (.metastore .closed)) c :=
  if_pos isClosed

theorem make_of_closed {s : Session SaslClient} (isClosed : s.client.closed = true) (now : Int32)
    {call : Call} (other : call ≠ .close) :
    (client now).make call s =
      s.after call.refused { s.client with sequence := s.client.sequence + 1 } := by
  have refused (request : Bytes) :
      exchange request { s.client with sequence := s.client.sequence + 1 } =
        result (.error (.metastore .closed))
          { s.client with sequence := s.client.sequence + 1 } :=
    exchange_of_closed (c := { s.client with sequence := s.client.sequence + 1 }) isClosed request
  cases call with
  | createDatabase name =>
    have operation := operation_of_exchange (fun n => (Request.createDatabase name).encode n)
      (refused _) (createResult .createDatabase)
    exact leftBy_call operation (.createDatabase name)
  | createTable table =>
    have operation := operation_of_exchange (fun n => (Request.createTable table now).encode n)
      (refused _) (createResult .createTable)
    exact leftBy_call operation (.createTable table)
  | getSchema database table =>
    have operation := operation_of_exchange (fun n => (Request.getSchema database table).encode n)
      (refused _) schemaResult
    exact leftBy_call operation (.getSchema database table)
  | close => exact absurd rfl other

theorem closesForGood :
    ClosesForGood client (fun c => c.closed = true) (fun c => c.stream) where
  closes now s := ⟨_, make_close now s, closed_shut s.client⟩
  refuses now call s isClosed := by
    by_cases closes : call = .close
    · subst closes
      have same : s.client.shut = s.client := if_pos isClosed
      refine ⟨_, make_close now s, closed_shut s.client, ?_⟩
      rw [same]
    · exact ⟨_, make_of_closed isClosed now closes, isClosed, rfl⟩

/-! ### How often the stream is shut down -/

/-- The stream was shut down `n` times, and once more if the client is closed. -/
def ShutFrom (n : Nat) (c : SaslClient) : Prop :=
  c.stream.sink.shutdowns = n + if c.closed then 1 else 0

variable {n : Nat}

theorem ShutFrom.stream_shut {c : SaslClient} (h : c.ShutFrom n) :
    c.shut.stream =
      { c.stream with sink := { c.stream.sink with shutdowns := n + 1 } } := by
  unfold ShutFrom at h
  unfold shut
  by_cases isClosed : c.closed = true
  · rw [if_pos isClosed] at h ⊢
    rw [← h]
  · rw [if_neg isClosed] at h ⊢
    rw [h]

/-- The step of the count: a call leaves it alone, and the first close adds one to it. -/
theorem shutFrom_make (now : Int32) (call : Call) (s : Session SaslClient) :
    (((client now).make call s).client.closed = true ↔
        s.client.closed = true ∨ call = .close) ∧
      (s.client.ShutFrom n → ((client now).make call s).client.ShutFrom n) := by
  by_cases closes : call = .close
  · subst closes
    rw [make_close]
    refine ⟨iff_of_true (closed_shut _) (.inr rfl), fun h => ?_⟩
    show s.client.shut.stream.sink.shutdowns = n + if s.client.shut.closed then 1 else 0
    rw [h.stream_shut, if_pos (closed_shut _)]
  · have kept := shutState_make now closes s
    obtain ⟨closed, shutdowns⟩ := Prod.mk.inj kept
    simp only [closes, or_false, closed, ShutFrom, shutdowns, imp_self, and_self]

/-- **The stream is shut down once**, by the first close, and never without one. -/
theorem shutdowns_makeInTurn (calls : List (Int32 × Call)) (s : Session SaslClient) :
    ((makeInTurn client calls s).client.closed = true ↔
        s.client.closed = true ∨ .close ∈ calls.map (·.2)) ∧
      (s.client.ShutFrom n → (makeInTurn client calls s).client.ShutFrom n) := by
  induction calls generalizing s with
  | nil => simp [makeInTurn]
  | cons first calls ih =>
    obtain ⟨now, call⟩ := first
    obtain ⟨closed, counted⟩ := shutFrom_make (n := n) now call s
    obtain ⟨closed', counted'⟩ := ih ((client now).make call s)
    rw [makeInTurn_cons]
    refine ⟨?_, fun h => counted' (counted h)⟩
    rw [closed', closed, List.map_cons, List.mem_cons, or_assoc, eq_comm (a := call)]

end SaslClient

/-! ## Both clients -/

/-- **Closing is final.**  Whatever calls were made before a close and whatever they came to, the
close succeeds, and every later call is refused and every later close succeeds.  The close and what
follows it do nothing on a plain connection; on a stream they write nothing and read nothing, but
the first close shuts it down, whether or not that succeeds, and nothing else ever does. -/
theorem Client.closed_for_good (before after : List (Int32 × Call)) (now : Int32) :
    (∀ {σ : Type} (link : PlainLink σ) (state : σ),
      let client := PlainClient.client link
      let opened := makeInTurn client before { client := { link := state } }
      let left := makeInTurn client (before ++ (now, .close) :: after)
        { client := { link := state } }
      left.exchanges = opened.exchanges ++ .close (.ok ()) :: after.map (·.2.refused) ∧
        left.client.link = opened.client.link) ∧
    ∀ stream : Stream,
      let client := SaslClient.client
      let opened := makeInTurn client before { client := { stream } }
      let left := makeInTurn client (before ++ (now, .close) :: after) { client := { stream } }
      left.exchanges = opened.exchanges ++ .close (.ok ()) :: after.map (·.2.refused) ∧
        left.client.stream =
          { opened.client.stream with
            sink := { opened.client.stream.sink with shutdowns := stream.sink.shutdowns + 1 } } ∧
        opened.client.stream.sink.shutdowns =
          stream.sink.shutdowns + if .close ∈ before.map (·.2) then 1 else 0 := by
  constructor
  · intro σ link state client opened left
    obtain ⟨answers, alone⟩ := (PlainClient.closesForGood link).makeInTurn_of_close before after now
      { client := { link := state } }
    exact ⟨answers, alone⟩
  · intro stream client opened left
    obtain ⟨answers, alone⟩ := SaslClient.closesForGood.makeInTurn_of_close before after now
      { client := { stream } }
    have fresh : ({ stream } : SaslClient).ShutFrom stream.sink.shutdowns := rfl
    obtain ⟨closed, counted⟩ := SaslClient.shutdowns_makeInTurn
      (n := stream.sink.shutdowns) before { client := { stream } }
    have count : opened.client.ShutFrom stream.sink.shutdowns := counted fresh
    refine ⟨answers, ?_, ?_⟩
    · rw [SaslClient.make_close] at alone
      exact alone.trans count.stream_shut
    · unfold SaslClient.ShutFrom at count
      rw [count]
      simp only [opened, client, closed, Bool.false_eq_true, false_or]

end MetastoreProbe
