import Mathlib.Logic.Relation
import MetastoreProbe.Proofs.Client.Exchange
import MetastoreProbe.Proofs.Client.Frames

/-!
# A client that many call

Calls on one client over frames can be under way at the same time.  What they share is the number of
the next request, which a call takes whenever it likes, and the stream, which belongs to one call at
a time: from before its request is sent until the frame that follows is received.  `Shared.Step`
lists what can happen next, each step being one of the operations that a call is made of
(`SaslClient.number`, `SaslClient.send`, `SaslClient.receive`).  A call that is made alone takes
these steps one after the other (`Shared.reaches_alone`).

`Shared.Sound` says what every run keeps: the calls are numbered in turn, each of them does with the
stream what its phase tells (`Story`), and the stream is used in turns (`Turn`).
-/

namespace MetastoreProbe

/-! ## Calls under way -/

/-- How far a call has got. -/
inductive Phase
  /-- It has its number, and waits for the stream. -/
  | waiting
  /-- Its request is sent, and it has the stream. -/
  | sent
  /-- It has left the stream, with what it received. -/
  | ended (received : Except Error Bytes)

/-- A call with the number of its request. -/
structure Ticket where
  request : Request
  number : Int32
  phase : Phase

/-- The bytes of the request. -/
def Ticket.bytes (t : Ticket) : Bytes := t.request.encode t.number

/-- What a call does with the stream; calls are told apart by the order of their numbers, counted
from 0. -/
inductive StreamEvent
  /-- It sends its request. -/
  | sent (caller : Nat) (request : Bytes)
  /-- It cannot send its request. -/
  | failed (caller : Nat) (e : Error)
  /-- It receives a frame, or learns that there is none. -/
  | received (caller : Nat) (frame : Except Error Bytes)

/-- A client with the calls that were made on it. -/
structure Shared where
  client : SaslClient
  tickets : List Ticket := []
  /-- The call that has the stream. -/
  holder : Option Nat := none
  /-- What was done with the stream, the first thing first. -/
  events : List StreamEvent := []

namespace StreamEvent

/-- The call that does something. -/
def caller : StreamEvent → Nat
  | sent k _ | failed k _ | received k _ => k

/-- What some call does. -/
def of (events : List StreamEvent) (k : Nat) : List StreamEvent :=
  events.filter fun event => event.caller == k

/-- The requests that are sent, with their calls. -/
def written (events : List StreamEvent) : List (Nat × Bytes) :=
  events.filterMap fun
    | sent k request => some (k, request)
    | failed _ _ | received _ _ => none

/-- What is received, with the calls that receive it. -/
def read (events : List StreamEvent) : List (Nat × Except Error Bytes) :=
  events.filterMap fun
    | received k frame => some (k, frame)
    | sent _ _ | failed _ _ => none

end StreamEvent

namespace Shared

/-- What happens next.  Any call can be numbered at any time, but only the call that has the stream
receives, and only while no call has it can one that waits take it, or the client be closed. -/
inductive Step : Shared → Shared → Prop
  | call {s : Shared} {number : Int32} {client : SaslClient} (request : Request)
    (numbered : SaslClient.number s.client = .ok number client) :
    Step s { s with client, tickets := s.tickets ++ [⟨request, number, .waiting⟩] }
  | send {s : Shared} {k : Nat} {request : Request} {number : Int32} {client : SaslClient}
    (free : s.holder = none) (waits : s.tickets[k]? = some ⟨request, number, .waiting⟩)
    (sent : SaslClient.send (request.encode number) s.client = .ok () client) :
    Step s
      { client
        tickets := s.tickets.set k ⟨request, number, .sent⟩
        holder := some k
        events := s.events ++ [.sent k (request.encode number)] }
  | fail {s : Shared} {k : Nat} {request : Request} {number : Int32} {client : SaslClient}
    {e : Error} (free : s.holder = none)
    (waits : s.tickets[k]? = some ⟨request, number, .waiting⟩)
    (failed : SaslClient.send (request.encode number) s.client = .error e client) :
    Step s
      { client
        tickets := s.tickets.set k ⟨request, number, .ended (.error e)⟩
        holder := none
        events := s.events ++ [.failed k e] }
  | receive {s : Shared} {k : Nat} {request : Request} {number : Int32} {client : SaslClient}
    {frame : Except Error Bytes} (holds : s.holder = some k)
    (own : s.tickets[k]? = some ⟨request, number, .sent⟩)
    (received : SaslClient.receive s.client = SaslClient.result frame client) :
    Step s
      { client
        tickets := s.tickets.set k ⟨request, number, .ended frame⟩
        holder := none
        events := s.events ++ [.received k frame] }
  | close {s : Shared} {client : SaslClient} (free : s.holder = none)
    (closed : SaslClient.close s.client = .ok () client) : Step s { s with client }

/-- A state can come of another one. -/
abbrev Reaches : Shared → Shared → Prop := Relation.ReflTransGen Step

end Shared

/-! ## What the operations leave alone -/

namespace SaslClient

variable {c c' : SaslClient}

theorem incoming_of_streamSend {α : Type} {action : EStateM Error Sink α} {s s' : Stream} :
    (∀ a, Stream.send action s = .ok a s' → s'.incoming = s.incoming) ∧
      ∀ e, Stream.send action s = .error e s' → s'.incoming = s.incoming := by
  unfold Stream.send
  cases action s.sink <;> refine ⟨fun _ h => ?_, fun _ h => ?_⟩ <;> cases h <;> rfl

/-- Sending takes no number and nothing of what comes in. -/
theorem kept_of_send {request : Bytes} (answer : Except Error Unit)
    (sent : send request c = result answer c') :
    c'.sequence = c.sequence ∧ c'.stream.incoming = c.stream.incoming := by
  unfold send at sent
  split at sent
  · cases answer <;> cases sent
    exact ⟨rfl, rfl⟩
  · cases h : Frame.write request c.stream with
    | ok _ stream =>
      rw [h] at sent
      cases answer <;> cases sent
      exact ⟨rfl, incoming_of_streamSend.1 _ h⟩
    | error e stream =>
      rw [h] at sent
      cases answer <;> cases sent
      exact ⟨rfl, incoming_of_streamSend.2 _ h⟩

/-- Receiving takes no number, and of what comes in it takes what is received. -/
theorem kept_of_receive {frame : Except Error Bytes} (received : receive c = result frame c') :
    c'.sequence = c.sequence ∧ c.Receives frame c'.stream.incoming := by
  unfold receive Frame.read Stream.read at received
  unfold Receives
  cases h : Frame.payload c.stream.incoming with
  | ok reply rest =>
    rw [h] at received
    cases frame <;> cases received
    exact ⟨rfl, rfl⟩
  | error e rest =>
    rw [h] at received
    cases frame <;> cases received
    exact ⟨rfl, rfl⟩

/-- Closing takes no number and nothing of what comes in. -/
theorem kept_of_close (closed : close c = .ok () c') :
    c'.sequence = c.sequence ∧ c'.stream.incoming = c.stream.incoming := by
  unfold close at closed
  split at closed
  · cases closed
    exact ⟨rfl, rfl⟩
  · cases h : Stream.send Sink.shutDown c.stream with
    | ok _ stream =>
      rw [h] at closed
      cases closed
      exact ⟨rfl, incoming_of_streamSend.1 _ h⟩
    | error e stream =>
      rw [h] at closed
      cases closed
      exact ⟨rfl, incoming_of_streamSend.2 _ h⟩

end SaslClient

/-! ## A call on its own -/

namespace Shared

/-- An operation comes to an answer, and leaves a client. -/
theorem exists_result {α : Type} (operation : EStateM Error SaslClient α) (c : SaslClient) :
    ∃ answer c', operation c = SaslClient.result answer c' := by
  cases operation c with
  | ok a c' => exact ⟨.ok a, c', rfl⟩
  | error e c' => exact ⟨.error e, c', rfl⟩

/-- A call that waits can take its turn, if its request can be sent. -/
theorem reaches_exchange {s : Shared} {k : Nat} {request : Request} {number : Int32}
    {c c' : SaslClient} {frame : Except Error Bytes} (free : s.holder = none)
    (waits : s.tickets[k]? = some ⟨request, number, .waiting⟩)
    (sent : SaslClient.send (request.encode number) s.client = .ok () c)
    (received : SaslClient.receive c = SaslClient.result frame c') :
    Reaches s
      { client := c'
        tickets := s.tickets.set k ⟨request, number, .ended frame⟩
        holder := none
        events := s.events ++ [.sent k (request.encode number), .received k frame] } := by
  have known : k < s.tickets.length := (List.getElem?_eq_some_iff.1 waits).1
  let ticket : Ticket := ⟨request, number, .sent⟩
  have own : (s.tickets.set k ticket)[k]? = some ticket := by
    simp [known]
  have took : Reaches s _ := .single (.send free waits sent)
  have received' := took.tail (.receive rfl own received)
  simpa using received'

/-- Over an open connection that takes everything, a call that waits can take its turn, and it
receives what comes in next. -/
theorem reaches_turn {s : Shared} {k : Nat} {request : Request} {number : Int32}
    (received : Except Error Bytes) {rest : Bytes} (free : s.holder = none)
    (isOpen : s.client.closed = false) (unlimited : s.client.stream.sink.room = none)
    (waits : s.tickets[k]? = some ⟨request, number, .waiting⟩)
    (receives : s.client.Receives received rest) :
    Reaches s
      { client := s.client.sent (request.encode number) rest
        tickets := s.tickets.set k ⟨request, number, .ended received⟩
        holder := none
        events := s.events ++ [.sent k (request.encode number), .received k received] } := by
  have goesOn : ¬ s.client.closed = true := by simp [isOpen]
  have sent : SaslClient.send (request.encode number) s.client =
      .ok () (s.client.sent (request.encode number) s.client.stream.incoming) := by
    unfold SaslClient.send
    rw [if_neg goesOn, Frame.write_eq unlimited]
    rfl
  refine reaches_exchange free waits sent ?_
  unfold SaslClient.receive Frame.read Stream.read
  have behind : Frame.payload
      (s.client.sent (request.encode number) s.client.stream.incoming).stream.incoming = _ :=
    receives
  rw [behind]
  cases received <;> rfl

/-- **A call that is made while no other one is under way takes the steps of its own**: it leaves
the client as the operation does, and is answered in the same way. -/
theorem reaches_alone {s : Shared} (free : s.holder = none) (request : Request) :
    let left := (SaslClient.client request.time).make request.call { client := s.client }
    ∃ received events,
      Reaches s
          { client := left.client
            tickets := s.tickets ++ [⟨request, s.client.sequence, .ended received⟩]
            holder := none
            events := s.events ++ events } ∧
        left.exchanges = [request.answered s.client.sequence received] := by
  intro left
  have numbered : Reaches s _ := .single (.call request rfl)
  obtain ⟨answer, c, sent⟩ := exists_result (SaslClient.send (request.encode s.client.sequence))
    { s.client with sequence := s.client.sequence + 1 }
  have waits : (s.tickets ++ [⟨request, s.client.sequence, .waiting⟩])[s.tickets.length]? =
      some ⟨request, s.client.sequence, .waiting⟩ := by
    simp
  cases answer with
  | error e =>
    have exchanged : SaslClient.exchange (request.encode s.client.sequence)
        { s.client with sequence := s.client.sequence + 1 } =
          SaslClient.result (.error e) c := by
      rw [SaslClient.exchange_eq]
      simp only [bind, EStateM.bind, sent]
      rfl
    have made := SaslClient.make_of_exchange (s := { client := s.client }) exchanged
    refine ⟨.error e, [.failed s.tickets.length e], ?_, congrArg Session.exchanges made⟩
    have failed := numbered.tail (.fail free waits sent)
    simpa [left, made] using failed
  | ok u =>
    obtain ⟨frame, c', received⟩ := exists_result SaslClient.receive c
    have exchanged : SaslClient.exchange (request.encode s.client.sequence)
        { s.client with sequence := s.client.sequence + 1 } = SaslClient.result frame c' := by
      rw [SaslClient.exchange_eq]
      simp only [bind, EStateM.bind, sent]
      exact received
    have made := SaslClient.make_of_exchange (s := { client := s.client }) exchanged
    refine ⟨frame, [.sent s.tickets.length (request.encode s.client.sequence),
      .received s.tickets.length frame], ?_, congrArg Session.exchanges made⟩
    have exchange := numbered.trans (reaches_exchange free waits sent received)
    simpa [left, made] using exchange

end Shared

/-! ## Stories and turns -/

/-- What a call has done with the stream when it is in some phase: it sends its request once, and
receives once after that, or it cannot send and receives nothing. -/
inductive Story (k : Nat) (request : Bytes) : Phase → List StreamEvent → Prop
  | waiting : Story k request .waiting []
  | sent : Story k request .sent [.sent k request]
  | received (frame : Except Error Bytes) :
    Story k request (.ended frame) [.sent k request, .received k frame]
  | failed (e : Error) : Story k request (.ended (.error e)) [.failed k e]

/-- What a call sends is its request. -/
theorem Story.eq_of_sent {k : Nat} {request request' : Bytes} {phase : Phase}
    {events : List StreamEvent} (story : Story k request phase events)
    (mem : .sent k request' ∈ events) : request' = request := by
  cases story with
  | waiting | failed => simp at mem
  | sent | received => simpa using mem

/-- A call that sent its request and has left the stream received what it is left with. -/
theorem Story.received_mem {k : Nat} {request request' : Bytes} {received : Except Error Bytes}
    {events : List StreamEvent} (story : Story k request (.ended received) events)
    (mem : .sent k request' ∈ events) : .received k received ∈ events := by
  cases story with
  | received => simp
  | failed => simp at mem

/-- The use of the stream by a call that has left it. -/
inductive Turn
  | exchange (caller : Nat) (request : Bytes) (frame : Except Error Bytes)
  | failure (caller : Nat) (e : Error)

/-- What the call does in its turn. -/
def Turn.events : Turn → List StreamEvent
  | exchange k request frame => [.sent k request, .received k frame]
  | failure k e => [.failed k e]

/-- What was done in the turn that is not over: nothing if no call has the stream, and else the call
that has it sent a request. -/
inductive Pending : Option Nat → List StreamEvent → Prop
  | free : Pending none []
  | held (k : Nat) (request : Bytes) : Pending (some k) [.sent k request]

/-- The stream is used in turns, one after the other. -/
def InTurns (events : List StreamEvent) (holder : Option Nat) : Prop :=
  ∃ (turns : List Turn) (pending : List StreamEvent),
    events = turns.flatMap Turn.events ++ pending ∧ Pending holder pending

namespace StreamEvent

variable {events : List StreamEvent} {event : StreamEvent} {k : Nat}

theorem of_append_of_eq (same : event.caller = k) :
    of (events ++ [event]) k = of events k ++ [event] := by
  simp [of, same]

theorem of_append_of_ne (other : event.caller ≠ k) : of (events ++ [event]) k = of events k := by
  simp [of, other]

theorem of_eq_nil (others : ∀ event ∈ events, event.caller < k) : of events k = [] := by
  refine List.filter_eq_nil_iff.2 fun event mem => ?_
  have other := others event mem
  simp
  omega

end StreamEvent

namespace InTurns

variable {events : List StreamEvent} {k : Nat}

theorem sent (turns : InTurns events none) (request : Bytes) :
    InTurns (events ++ [.sent k request]) (some k) := by
  obtain ⟨turns, _, rfl, ⟨⟩⟩ := turns
  exact ⟨turns, _, by rw [List.append_nil], .held k request⟩

theorem failed (turns : InTurns events none) (e : Error) :
    InTurns (events ++ [.failed k e]) none := by
  obtain ⟨turns, _, rfl, ⟨⟩⟩ := turns
  exact ⟨turns ++ [.failure k e], _, by simp [Turn.events], .free⟩

theorem received (turns : InTurns events (some k)) (frame : Except Error Bytes) :
    InTurns (events ++ [.received k frame]) none := by
  obtain ⟨turns, _, rfl, pending⟩ := turns
  cases pending with
  | held _ request =>
    exact ⟨turns ++ [.exchange k request frame], _, by simp [Turn.events], .free⟩

/-- **What is received as the `j`-th is received by the call that sends as the `j`-th.** -/
theorem exists_written {holder : Option Nat} (turns : InTurns events holder) {j : Nat}
    {frame : Except Error Bytes} (received : (StreamEvent.read events)[j]? = some (k, frame)) :
    ∃ request, (StreamEvent.written events)[j]? = some (k, request) := by
  obtain ⟨turns, pending, rfl, tail⟩ := turns
  induction turns generalizing j with
  | nil => cases tail <;> cases received
  | cons turn turns ih =>
    cases turn with
    | failure k' e => exact ih received
    | exchange k' request frame' =>
      cases j with
      | zero =>
        cases received
        exact ⟨request, rfl⟩
      | succ j => exact ih received

end InTurns

/-! ## What every run keeps -/

/-- A call is numbered by its place, its story is the one of its phase, and if it received nothing,
that is for the connection. -/
structure Ticket.Sound (start : SaslClient) (events : List StreamEvent) (k : Nat) (t : Ticket) :
    Prop where
  numbered : t.number = start.sequence + Int32.ofNat k
  story : Story k t.bytes t.phase (StreamEvent.of events k)
  broken : ∀ e, t.phase = .ended (.error e) → e.OfConnection

namespace Shared

/-- What holds of every state that comes of a client without calls. -/
structure Sound (start : SaslClient) (s : Shared) : Prop where
  next : s.client.sequence = start.sequence + Int32.ofNat s.tickets.length
  tickets : ∀ (k : Nat) (t : Ticket), s.tickets[k]? = some t → t.Sound start s.events k
  known : ∀ event ∈ s.events, event.caller < s.tickets.length
  turns : InTurns s.events s.holder

variable {start : SaslClient} {s s' : Shared}

theorem sound_start (start : SaslClient) : Sound start { client := start } where
  next := (Int32.add_zero _).symm
  tickets := nofun
  known := nofun
  turns := ⟨[], [], rfl, .free⟩

/-- A call that does something gets into its next phase, and the others stay in theirs. -/
theorem Sound.tickets_set (sound : Sound start s) {k : Nat} {request : Request} {number : Int32}
    {phase phase' : Phase} (own : s.tickets[k]? = some ⟨request, number, phase⟩)
    {event : StreamEvent} (caller : event.caller = k)
    (goesOn : ∀ {events}, Story k (request.encode number) phase events →
      Story k (request.encode number) phase' (events ++ [event]))
    (broken : ∀ e, phase' = .ended (.error e) → e.OfConnection) :
    ∀ (j : Nat) (t : Ticket), (s.tickets.set k ⟨request, number, phase'⟩)[j]? = some t →
      t.Sound start (s.events ++ [event]) j := by
  intro j t found
  rw [List.getElem?_set] at found
  by_cases same : k = j
  · subst same
    have known : k < s.tickets.length := (List.getElem?_eq_some_iff.1 own).1
    rw [if_pos rfl, if_pos known] at found
    cases found
    obtain ⟨numbered, story, -⟩ := sound.tickets k _ own
    refine ⟨numbered, ?_, broken⟩
    rw [StreamEvent.of_append_of_eq caller]
    exact goesOn story
  · rw [if_neg same] at found
    obtain ⟨numbered, story, old⟩ := sound.tickets j t found
    refine ⟨numbered, ?_, old⟩
    rwa [StreamEvent.of_append_of_ne (by omega)]

theorem Sound.known_append (sound : Sound start s) {k : Nat} {t : Ticket}
    (own : s.tickets[k]? = some t) {event : StreamEvent} (caller : event.caller = k) (t' : Ticket) :
    ∀ e ∈ s.events ++ [event], e.caller < (s.tickets.set k t').length := by
  have known : k < s.tickets.length := (List.getElem?_eq_some_iff.1 own).1
  intro e mem
  rw [List.length_set]
  rcases List.mem_append.1 mem with before | new
  · exact sound.known e before
  · cases List.mem_singleton.1 new
    omega

/-- **Each step keeps it.** -/
theorem Sound.step (sound : Sound start s) (step : Step s s') : Sound start s' := by
  have ⟨next, tickets, known, turns⟩ := sound
  cases step with
  | call request numbered =>
    cases numbered
    refine ⟨?_, ?_, ?_, turns⟩
    · simp [next, Int32.ofNat_add, Int32.add_assoc]
    · intro k t found
      rw [List.getElem?_append] at found
      split at found
      next old => exact tickets k t found
      next new =>
        rw [List.getElem?_singleton] at found
        split at found
        next last =>
          cases found
          have here : k = s.tickets.length := by omega
          refine ⟨by rw [here]; exact next, ?_, nofun⟩
          rw [here, StreamEvent.of_eq_nil known]
          exact .waiting
        next => cases found
    · intro event mem
      have old := known event mem
      rw [List.length_append]
      exact Nat.lt_add_right _ old
  | send free waits sent =>
    have kept := SaslClient.kept_of_send (.ok ()) sent
    refine ⟨?_, ?_, ?_, (free ▸ turns).sent _⟩
    · rw [kept.1, List.length_set]
      exact next
    · refine sound.tickets_set waits rfl ?_ nofun
      rintro _ ⟨⟩
      exact .sent
    · exact sound.known_append waits rfl _
  | fail free waits failed =>
    have kept := SaslClient.kept_of_send (.error _) failed
    refine ⟨?_, ?_, ?_, (free ▸ turns).failed _⟩
    · rw [kept.1, List.length_set]
      exact next
    · refine sound.tickets_set waits rfl ?_ ?_
      · rintro _ ⟨⟩
        exact .failed _
      · rintro _ ⟨⟩
        exact SaslClient.failsOnly_send _ _ _ _ failed
    · exact sound.known_append waits rfl _
  | receive holds own received =>
    have kept := SaslClient.kept_of_receive received
    refine ⟨?_, ?_, ?_, (holds ▸ turns).received _⟩
    · rw [kept.1, List.length_set]
      exact next
    · refine sound.tickets_set own rfl ?_ ?_
      · rintro _ ⟨⟩
        exact .received _
      · rintro _ ⟨⟩
        exact SaslClient.failsOnly_receive _ _ _ received
    · exact sound.known_append own rfl _
  | close free closed =>
    have kept := SaslClient.kept_of_close closed
    exact ⟨kept.1.trans next, tickets, known, turns⟩

/-- So does every run. -/
theorem sound_of_reaches (run : Reaches { client := start } s) : Sound start s := by
  induction run with
  | refl => exact sound_start start
  | tail _ step ih => exact ih.step step

end Shared

end MetastoreProbe
