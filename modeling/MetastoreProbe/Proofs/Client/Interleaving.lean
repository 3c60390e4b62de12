import MetastoreProbe.Proofs.Client.Sharing
import MetastoreProbe.Proofs.Rpc.Correlation
import MetastoreProbe.Proofs.Rpc.Request

/-!
# Calls and their replies

However the calls on a shared client are interleaved, each of them judges its reply by its own name
and number.  `Shared.answers_of_run` says what that comes to.  The numbers are all different, the
stream is used in turns, and only a reply that belongs to the request of a call tells it anything.
Where the server answers the requests in the order in which they are sent, each call receives the
reply that was made for it.

This supposes that the replies are no longer than frames may be.  A call that meets a longer one
gives up in front of it, and what the next call receives starts inside it
(`Shared.foreign_answer_of_long_frame`).
-/

namespace MetastoreProbe

open Reader (messageHead)

/-! ## Answers of the metastore -/

/-- The answer is one of the method: a value, or the error for an exception. -/
def Method.Answers {α : Type} (method : Method) : Except Error α → Prop
  | .ok _ => True
  | .error e => ∃ thrown, e = SaslClient.remoteError method thrown

/-- The call ended with what the metastore said about it: that something was created or existed
already, a schema, or an exception of the method. -/
def Exchange.FromReply : Exchange → Prop
  | .createDatabase _ answer => Method.createDatabase.Answers answer
  | .createTable _ answer => Method.createTable.Answers answer
  | .getSchema _ _ answer => Method.getSchema.Answers answer
  | .close _ => False

/-- A reply carries the name and the number of a request. -/
def Reply.Echoes (request reply : Bytes) : Prop :=
  ∀ name number body, messageHead request = .ok ⟨.call, name, number⟩ body →
    ∃ kind body', messageHead reply = .ok ⟨kind, name, number⟩ body'

namespace SaslClient

variable {method : Method} {sequence : Int32} {reply : Bytes}

theorem ne_remoteError_of_ofConnection {e : Error} (h : e.OfConnection) (thrown : RemoteException) :
    e ≠ remoteError method thrown := by
  rintro rfl
  exact h

/-- A fault of a reply is none of the method's exceptions. -/
theorem toError_ne_remoteError (fault : DecodeFault) (thrown : RemoteException) :
    fault.toError ≠ remoteError method thrown := by
  cases fault with
  | application kind message =>
    intro same
    have operation : "call" = method.name := by
      simp only [DecodeFault.toError, DecodeFault.failure?, Error.ofRpcFailure, remoteError,
        Error.metastore.injEq, MetastoreError.exception.injEq] at same
      exact same.1
    cases method <;> exact absurd operation (by decide)
  | _ =>
    intro same
    cases same

theorem exists_head_of_createResult
    (answers : method.Answers (createResult method sequence reply)) :
    ∃ body, messageHead reply = .ok ⟨.reply, method.name, sequence⟩ body := by
  unfold createResult at answers
  cases decoded : Reply.decodeVoid method sequence reply with
  | ok a => exact Reply.exists_head_of_valueOf_ok (Reply.finishes_readVoid method sequence) decoded
  | error fault =>
    rw [decoded] at answers
    obtain ⟨thrown, same⟩ := answers
    exact absurd same (toError_ne_remoteError fault thrown)

theorem exists_head_of_schemaResult
    (answers : Method.getSchema.Answers (schemaResult sequence reply)) :
    ∃ body, messageHead reply = .ok ⟨.reply, Method.getSchema.name, sequence⟩ body := by
  unfold schemaResult at answers
  cases decoded : Reply.decodeSchema sequence reply with
  | ok a => exact Reply.exists_head_of_valueOf_ok (Reply.finishes_readSchema sequence) decoded
  | error fault =>
    rw [decoded] at answers
    obtain ⟨thrown, same⟩ := answers
    exact absurd same (toError_ne_remoteError fault thrown)

/-- **Only a reply that belongs to the request tells a call anything.** -/
theorem exists_head_of_answered {request : Request} {received : Except Error Bytes}
    (broken : ∀ e, received = .error e → e.OfConnection)
    (answers : (request.answered sequence received).FromReply) :
    ∃ frame body, received = .ok frame ∧
      messageHead frame = .ok ⟨.reply, request.method.name, sequence⟩ body := by
  cases received with
  | error e =>
    have other {method : Method} : ¬ method.Answers (.error e : Except Error Unit) := by
      rintro ⟨thrown, same⟩
      exact ne_remoteError_of_ofConnection (broken e rfl) thrown same
    cases request <;> exact absurd answers other
  | ok frame =>
    refine ⟨frame, ?_⟩
    cases request with
    | createDatabase | createTable =>
      obtain ⟨body, head⟩ := exists_head_of_createResult answers
      exact ⟨body, rfl, head⟩
    | getSchema =>
      obtain ⟨body, head⟩ := exists_head_of_schemaResult answers
      exact ⟨body, rfl, head⟩

/-! ## Frames in order -/

/-- What is received is determined by what comes in. -/
theorem Receives.unique {c : SaslClient} {received received' : Except Error Bytes}
    {rest rest' : Bytes} (h : c.Receives received rest) (h' : c.Receives received' rest') :
    received = received' ∧ rest = rest' := by
  have same := Eq.trans (Eq.symm h) h'
  cases received <;> cases received' <;> simp_all

end SaslClient

namespace Shared

variable {start : SaslClient} {s s' : Shared} {replies : List Bytes}

/-- The replies were received in their order, and the frames of the others are still to come. -/
structure Aligned (replies : List Bytes) (s : Shared) : Prop where
  left : s.client.stream.incoming =
    (replies.drop (StreamEvent.read s.events).length).flatMap Frame.bytes
  inOrder : ∀ (j k : Nat) (frame : Except Error Bytes),
    (StreamEvent.read s.events)[j]? = some (k, frame) → frame = SaslClient.received replies j

/-- What receives nothing leaves them in line. -/
theorem Aligned.of_unread (aligned : Aligned replies s)
    (kept : s'.client.stream.incoming = s.client.stream.incoming)
    (unread : StreamEvent.read s'.events = StreamEvent.read s.events) : Aligned replies s' where
  left := by rw [kept, unread, aligned.left]
  inOrder := by
    rw [unread]
    exact aligned.inOrder

/-- Receiving takes the next of the replies. -/
theorem Aligned.of_received (accepted : ∀ reply ∈ replies, reply.length ≤ maxFrameLength)
    (aligned : Aligned replies s) {k : Nat} {frame : Except Error Bytes} {client : SaslClient}
    (taken : s.client.Receives frame client.stream.incoming) (tickets : List Ticket)
    (holder : Option Nat) :
    Aligned replies ⟨client, tickets, holder, s.events ++ [.received k frame]⟩ := by
  have due : s.client.Receives _ _ := (congrArg Frame.payload aligned.left).trans
    (SaslClient.payload_flatMap_bytes fun reply mem => accepted reply (List.mem_of_mem_drop mem))
  obtain ⟨here, rest⟩ := taken.unique due
  have more : StreamEvent.read (s.events ++ [.received k frame]) =
      StreamEvent.read s.events ++ [(k, frame)] := by
    simp [StreamEvent.read]
  refine ⟨?_, ?_⟩
  · rw [rest, more, List.length_append, List.tail_drop]
    rfl
  · intro j k' frame' found
    rw [more, List.getElem?_append] at found
    split at found
    next before => exact aligned.inOrder j k' frame' found
    next behind =>
      rw [List.getElem?_singleton] at found
      split at found
      next last =>
        cases found
        have place : j = (StreamEvent.read s.events).length := by omega
        rw [here, place, SaslClient.received, SaslClient.received, List.getElem?_drop,
          Nat.add_zero]
      next => cases found

/-- Each step keeps replies and calls in line, as long as the replies are not too long. -/
theorem Aligned.step (accepted : ∀ reply ∈ replies, reply.length ≤ maxFrameLength)
    (aligned : Aligned replies s) (step : Step s s') : Aligned replies s' := by
  cases step with
  | call request numbered =>
    cases numbered
    exact aligned.of_unread rfl rfl
  | send free waits sent =>
    have kept := SaslClient.kept_of_send (.ok ()) sent
    exact aligned.of_unread kept.2 (by simp [StreamEvent.read])
  | fail free waits failed =>
    have kept := SaslClient.kept_of_send (.error _) failed
    exact aligned.of_unread kept.2 (by simp [StreamEvent.read])
  | receive holds own received =>
    exact aligned.of_received accepted (SaslClient.kept_of_receive received).2 _ _
  | close free closed =>
    have kept := SaslClient.kept_of_close closed
    exact aligned.of_unread kept.2 rfl

theorem aligned_of_reaches (accepted : ∀ reply ∈ replies, reply.length ≤ maxFrameLength)
    (incoming : start.stream.incoming = replies.flatMap Frame.bytes)
    (run : Reaches { client := start } s) : Aligned replies s := by
  induction run with
  | refl => exact ⟨incoming, nofun⟩
  | tail _ step ih => exact ih.step accepted step

/-! ## Numbers -/

theorem ofNat_inj {n m : Nat} (hn : n < Int32.size) (hm : m < Int32.size)
    (same : Int32.ofNat n = Int32.ofNat m) : n = m := by
  have size : Int32.size = 4294967296 := rfl
  have bits := congrArg (fun i : Int32 => i.toBitVec.toNat) same
  simp at bits
  omega

/-- **Fewer calls than there are numbers have numbers of their own.** -/
theorem Sound.nodup_numbers (sound : Sound start s) (few : s.tickets.length < Int32.size) :
    (s.tickets.map Ticket.number).Nodup := by
  have numbered (k : Nat) (known : k < s.tickets.length) :
      s.tickets[k].number = start.sequence + Int32.ofNat k :=
    (sound.tickets k _ (List.getElem?_eq_getElem known)).numbered
  rw [List.Nodup, List.pairwise_iff_getElem]
  intro i j hi hj before same
  rw [List.length_map] at hi hj
  rw [List.getElem_map, List.getElem_map, numbered i hi, numbered j hj,
    Int32.add_right_inj] at same
  have place := ofNat_inj (by omega) (by omega) same
  omega

/-- What a call sends are the bytes of its own request. -/
theorem Sound.bytes_of_sent (sound : Sound start s) {k : Nat} {t : Ticket}
    (found : s.tickets[k]? = some t) {request : Bytes} (mem : .sent k request ∈ s.events) :
    request = t.bytes := by
  have own : StreamEvent.sent k request ∈ StreamEvent.of s.events k :=
    List.mem_filter.2 ⟨mem, by simp [StreamEvent.caller]⟩
  exact (sound.tickets k t found).story.eq_of_sent own

/-! ## Replies for requests -/

/-- The server answers the requests in the order in which they are sent, and each with its name and
its number. -/
def AnswersInOrder (replies : List Bytes) (events : List StreamEvent) : Prop :=
  ∀ (j k : Nat) (request : Bytes), (StreamEvent.written events)[j]? = some (k, request) →
    ∃ reply, replies[j]? = some reply ∧ Reply.Echoes request reply

/-- What a call received is the reply in the place of its request, and that is one with its own name
and number. -/
def OwnReply (replies : List Bytes) (events : List StreamEvent) (k : Nat) (t : Ticket)
    (received : Except Error Bytes) : Prop :=
  ∃ (j : Nat) (reply : Bytes), (StreamEvent.written events)[j]? = some (k, t.bytes) ∧
    replies[j]? = some reply ∧ received = .ok reply ∧
      Reply.Addressed t.request.method t.number reply

/-- Where the requests are answered in order, a call whose request was sent receives its own
reply. -/
theorem Sound.own_reply (sound : Sound start s) (aligned : Aligned replies s)
    (server : AnswersInOrder replies s.events) {k : Nat} {t : Ticket} {request : Bytes}
    {received : Except Error Bytes} (found : s.tickets[k]? = some t)
    (ended : t.phase = .ended received) (sent : .sent k request ∈ s.events) :
    OwnReply replies s.events k t received := by
  have story := (sound.tickets k t found).story
  rw [ended] at story
  have own : StreamEvent.sent k request ∈ StreamEvent.of s.events k :=
    List.mem_filter.2 ⟨sent, by simp [StreamEvent.caller]⟩
  have event : .received k received ∈ s.events :=
    (List.mem_filter.1 (story.received_mem own)).1
  have reading : (k, received) ∈ StreamEvent.read s.events :=
    List.mem_filterMap.2 ⟨_, event, rfl⟩
  obtain ⟨j, place⟩ := List.mem_iff_getElem?.1 reading
  obtain ⟨written, asked⟩ := sound.turns.exists_written place
  have mem : .sent k written ∈ s.events := by
    obtain ⟨event, mem, same⟩ := List.mem_filterMap.1 (List.mem_of_getElem? asked)
    cases event <;> cases same
    exact mem
  obtain rfl := sound.bytes_of_sent found mem
  obtain ⟨reply, answered, echoes⟩ := server j k _ asked
  have head := Request.messageHead_encode t.request t.number []
  rw [List.append_nil] at head
  refine ⟨j, reply, asked, answered, ?_, echoes _ _ _ head⟩
  rw [aligned.inOrder j k received place, SaslClient.received, answered]

/-- **No result is taken from another request's reply.**  In every run of fewer calls than there are
numbers, whatever the order in which the calls take the stream:

* the calls have different numbers, and their requests carry them;
* each call sends its request at most once, and it is followed by the receiving of at most one
  frame, before any other request is sent;
* a call tells of something created or existing, of a schema or of an exception of its method only
  if the frame that it received is a reply with its own name and number;
* if the other side sends replies that are no longer than frames may be, they are received whole
  and in their order, and where they answer the requests in the order in which those are sent, each
  call receives the one that was made for it. -/
theorem answers_of_run (run : Reaches { client := start } s) (few : s.tickets.length < Int32.size) :
    ((s.tickets.map Ticket.number).Nodup ∧
        ∀ (k : Nat) (t : Ticket), s.tickets[k]? = some t →
          ∃ body, messageHead t.bytes = .ok ⟨.call, t.request.method.name, t.number⟩ body) ∧
      (InTurns s.events s.holder ∧
        (∀ event ∈ s.events, event.caller < s.tickets.length) ∧
        ∀ (k : Nat) (t : Ticket), s.tickets[k]? = some t →
          Story k t.bytes t.phase (StreamEvent.of s.events k)) ∧
      (∀ (k : Nat) (t : Ticket) (received : Except Error Bytes), s.tickets[k]? = some t →
        t.phase = .ended received → (t.request.answered t.number received).FromReply →
          ∃ frame body, received = .ok frame ∧
            messageHead frame = .ok ⟨.reply, t.request.method.name, t.number⟩ body) ∧
      ∀ replies : List Bytes, start.stream.incoming = replies.flatMap Frame.bytes →
        (∀ reply ∈ replies, reply.length ≤ maxFrameLength) →
          (∀ (j k : Nat) (frame : Except Error Bytes),
            (StreamEvent.read s.events)[j]? = some (k, frame) →
              frame = SaslClient.received replies j) ∧
          (AnswersInOrder replies s.events →
            ∀ (k : Nat) (t : Ticket) (received : Except Error Bytes) (request : Bytes),
              s.tickets[k]? = some t → t.phase = .ended received → .sent k request ∈ s.events →
                OwnReply replies s.events k t received) := by
  have sound := sound_of_reaches run
  refine ⟨⟨sound.nodup_numbers few, fun k t found => ?_⟩,
    ⟨sound.turns, sound.known, fun k t found => (sound.tickets k t found).story⟩, ?_, ?_⟩
  · have head := Request.messageHead_encode t.request t.number []
    rw [List.append_nil] at head
    exact ⟨_, head⟩
  · intro k t received found ended answers
    refine SaslClient.exists_head_of_answered (fun e failed => ?_) answers
    exact (sound.tickets k t found).broken e (by rw [ended, failed])
  · intro replies incoming accepted
    have aligned := aligned_of_reaches accepted incoming run
    refine ⟨aligned.inOrder, fun server k t received request found ended sent => ?_⟩
    exact sound.own_reply aligned server found ended sent

/-! ## Two calls -/

/-- A message with the name of the method and the number of the request echoes it. -/
theorem echoes_of_head (kind : MessageKind) (request : Request) (number : Int32) (body : Bytes) :
    Reply.Echoes (request.encode number)
      (Writer.messageHead kind request.method.name number ++ body) := by
  intro name number' body' head
  have own := Request.messageHead_encode request number []
  rw [List.append_nil, head] at own
  cases own
  exact ⟨kind, body, Reader.messageHead_append kind request.method.name_short number body⟩

/-- Two calls are numbered before one of them has the stream. -/
theorem reaches_calls (start : SaslClient) (request request' : Request) :
    Reaches { client := start }
      { client := { start with sequence := start.sequence + 1 + 1 }
        tickets :=
          [⟨request, start.sequence, .waiting⟩, ⟨request', start.sequence + 1, .waiting⟩] } :=
  (Relation.ReflTransGen.single (.call request rfl)).tail (.call request' rfl)

/-- Over an open connection that takes everything, the two take the stream in turn, and receive what
comes in. -/
theorem reaches_two (received received' : Except Error Bytes) {rest rest' : Bytes}
    (isOpen : start.closed = false) (unlimited : start.stream.sink.room = none)
    (request request' : Request) (receives : start.Receives received rest)
    (receives' : { start with stream := { start.stream with incoming := rest } }.Receives
      received' rest') :
    ∃ client, Reaches { client := start }
      { client
        tickets :=
          [⟨request, start.sequence, .ended received⟩,
            ⟨request', start.sequence + 1, .ended received'⟩]
        events :=
          [.sent 0 (request.encode start.sequence), .received 0 received,
            .sent 1 (request'.encode (start.sequence + 1)), .received 1 received'] } := by
  have turn := (reaches_calls start request request').trans
    (reaches_turn (k := 0) received rfl isOpen unlimited rfl receives)
  have turn' := turn.trans (reaches_turn (k := 1) received' rfl isOpen unlimited rfl receives')
  exact ⟨_, turn'⟩

/-- The call that was numbered second takes the stream first, and both receive their own replies. -/
theorem answers_of_run_out_of_order :
    let calls := [Request.createDatabase "d", Request.getSchema "d" "t"]
    let replies := [Writer.messageHead .reply "get_schema" 2 ++ [0],
      Writer.messageHead .reply "create_database" 1 ++ [0]]
    let start : SaslClient := { stream := { incoming := replies.flatMap Frame.bytes } }
    ∃ s, Reaches { client := start } s ∧ s.tickets.map Ticket.request = calls ∧
      (StreamEvent.written s.events).map Prod.fst = [1, 0] ∧
      ∀ (k : Nat) (t : Ticket), s.tickets[k]? = some t →
        ∃ received, t.phase = .ended received ∧ OwnReply replies s.events k t received := by
  intro calls replies start
  let request := Request.createDatabase "d"
  let request' := Request.getSchema "d" "t"
  have receives : start.Receives (.ok replies[0]) (Frame.bytes replies[1]) :=
    Frame.payload_bytes_append (by decide) _
  have receives' : Frame.payload (Frame.bytes replies[1]) = .ok replies[1] [] :=
    Frame.payload_bytes_append (by decide) []
  obtain ⟨client, run⟩ : ∃ client, Reaches { client := start }
      { client
        tickets := [⟨request, 1, .ended (.ok replies[1])⟩, ⟨request', 2, .ended (.ok replies[0])⟩]
        events :=
          [.sent 1 (request'.encode 2), .received 1 (.ok replies[0]), .sent 0 (request.encode 1),
            .received 0 (.ok replies[1])] } := by
    have turn := (reaches_calls start request request').trans
      (reaches_turn (k := 1) (.ok replies[0]) rfl rfl rfl rfl receives)
    have turn' := turn.trans
      (reaches_turn (k := 0) (.ok replies[1]) rfl rfl rfl rfl receives')
    exact ⟨_, turn'⟩
  refine ⟨_, run, rfl, rfl, ?_⟩
  obtain ⟨-, -, -, inLine⟩ := answers_of_run run (by simp [Int32.size])
  obtain ⟨-, own⟩ := inLine replies rfl (by decide)
  have server : AnswersInOrder replies [.sent 1 (request'.encode 2), .received 1 (.ok replies[0]),
      .sent 0 (request.encode 1), .received 0 (.ok replies[1])] := by
    intro j k asked place
    match j with
    | 0 =>
      cases place
      exact ⟨_, rfl, echoes_of_head .reply request' 2 [0]⟩
    | 1 =>
      cases place
      exact ⟨_, rfl, echoes_of_head .reply request 1 [0]⟩
    | j + 2 => cases place
  intro k t found
  match k with
  | 0 =>
    cases found
    exact ⟨_, rfl, own server 0 _ _ (request.encode 1) rfl rfl (by simp)⟩
  | 1 =>
    cases found
    exact ⟨_, rfl, own server 1 _ _ (request'.encode 2) rfl rfl (by simp)⟩
  | k + 2 => cases found

/-- **A frame that is too long puts the calls out of line with the replies.**  The server answers
both requests in order, and each with its name and its number, but the first reply is longer than a
frame may be: the second call does not receive the second reply.  And if the other side begins such
a frame and has the frame of another reply in it, the second call takes that one for the answer to
its own request. -/
theorem foreign_answer_of_long_frame :
    let request := Request.createDatabase "a"
    let request' := Request.createDatabase "b"
    let long := Writer.messageHead .reply "create_database" 1 ++ List.replicate maxFrameLength 0
    let created := Writer.messageHead .reply "create_database" 2 ++ [0]
    let honest := [long, created]
    let forged := BigEndian.encode 4 (maxFrameLength + 1) ++ Frame.bytes created
    let receiving (incoming : Bytes) : SaslClient := { stream := { incoming } }
    (∃ s received, Reaches { client := receiving (honest.flatMap Frame.bytes) } s ∧
        AnswersInOrder honest s.events ∧
        s.tickets.map Ticket.request = [request, request'] ∧
        s.tickets[1]? = some ⟨request', 2, .ended received⟩ ∧
        .sent 1 (request'.encode 2) ∈ s.events ∧ received.toOption = none) ∧
      ∃ s received, Reaches { client := receiving forged } s ∧
        s.tickets.map Ticket.request = [request, request'] ∧
        s.tickets[1]? = some ⟨request', 2, .ended received⟩ ∧
        request'.answered 2 received = .createDatabase "b" (.ok .created) := by
  intro request request' long created honest forged receiving
  have told : BigEndian.weight 4 = 4294967296 := rfl
  have limit : maxFrameLength = 104857600 := rfl
  have next : Frame.payload (Frame.bytes created) = .ok created [] :=
    Frame.payload_bytes_append (by decide) []
  refine ⟨?_, ?_⟩
  · have length : long.length = 27 + maxFrameLength := by
      have head : (Writer.messageHead .reply "create_database" 1).length = 27 := by decide
      rw [List.length_append, List.length_replicate, head]
    -- What the second call takes for a length are the first bytes of the first reply.
    obtain ⟨more, opening⟩ : ∃ more, long ++ Frame.bytes created =
        BigEndian.encode 4 2147549186 ++ more := by
      have head : Writer.messageHead .reply "create_database" 1 =
          BigEndian.encode 4 2147549186 ++
            (Writer.string "create_database" ++ Writer.i32 1) := by decide
      simp only [long, head, List.append_assoc]
      exact ⟨_, rfl⟩
    have refused := Frame.payload_of_too_long (p := long) (by omega) (by omega)
      (Frame.bytes created)
    have refused' := Frame.payload_of_too_large (n := 2147549186) (by omega) (by omega) more
    rw [← opening] at refused'
    let start := receiving (honest.flatMap Frame.bytes)
    have receives : start.Receives (.error (.metastore (.protocol (.frameTooLong long.length))))
        (long ++ Frame.bytes created) := by
      have whole : start.stream.incoming = Frame.bytes long ++ Frame.bytes created := by
        simp [start, receiving, honest]
      unfold SaslClient.Receives
      rw [whole]
      exact refused
    obtain ⟨client, run⟩ := reaches_two (.error _)
      (.error (.metastore (.protocol (.frameTooLong 2147549186)))) rfl rfl request request'
      receives refused'
    refine ⟨_, _, run, ?_, rfl, rfl, List.mem_of_getElem? (i := 2) rfl, rfl⟩
    intro j k asked place
    match j with
    | 0 =>
      cases place
      exact ⟨_, rfl, echoes_of_head .reply request 1 (List.replicate maxFrameLength 0)⟩
    | 1 =>
      cases place
      exact ⟨_, rfl, echoes_of_head .reply request' 2 [0]⟩
    | j + 2 => cases place
  · have refused := Frame.payload_of_too_large (n := maxFrameLength + 1) (by omega) (by omega)
      (Frame.bytes created)
    let start := receiving forged
    have receives : start.Receives
        (.error (.metastore (.protocol (.frameTooLong (maxFrameLength + 1)))))
        (Frame.bytes created) := refused
    obtain ⟨client, run⟩ := reaches_two (.error _) (.ok created) rfl rfl request request'
      receives next
    refine ⟨_, _, run, rfl, rfl, ?_⟩
    have head := Reader.messageHead_append .reply Method.createDatabase.name_short 2 [0]
    have empty : Reply.readResult .createDatabase Reader.skip [0] = .ok {} [] :=
      Scan.iterate_of_inr rfl
    have decoded : Reply.decodeVoid .createDatabase 2 created = .ok (.value ()) :=
      Reply.decodeVoid_eq_ok_iff.2 ⟨_, _, _, head, empty, rfl⟩
    have answer : SaslClient.createResult .createDatabase 2 created = .ok .created := by
      rw [SaslClient.createResult, decoded]
      rfl
    exact congrArg (Exchange.createDatabase "b") answer

end Shared

end MetastoreProbe
