import MetastoreProbe.Proofs.Sasl.Acceptance
import MetastoreProbe.Proofs.Scan.Delimited

/-!
# Where a negotiation ends

The first frame of the server follows its last negotiation message without anything in between, and
one byte too many taken by the negotiation would be missing in that frame.  A negotiation that
succeeds ends with the server's last message: `Negotiation.run_self_delimiting` says that it goes
in the same way whatever follows, down to the bytes that are sent, and that it leaves what follows
as it is.  If the server's messages are cut off anywhere, it fails because the input ends.

The mechanism decides how many messages are read, so the law is not one about a scan.  Each message
is received by a scan that is self-delimiting, and the negotiation settles message by message.
-/

namespace MetastoreProbe

/-- A read failed because the input ends, in a number or in a payload. -/
def Error.IsEndOfFile (e : Error) : Prop := e = .io .endOfFile ∨ e = .io .earlyEnd

/-! ## Receiving -/

theorem Frame.selfDelimiting_payload : Scan.SelfDelimiting Error.IsEndOfFile payload := by
  refine (Scan.selfDelimiting_take (.inl rfl) 4).bind fun header => ?_
  dsimp only
  split
  · exact Scan.selfDelimiting_throw _
  · exact Scan.selfDelimiting_take (.inr rfl) _

namespace Sasl

theorem selfDelimiting_receive : Scan.SelfDelimiting Error.IsEndOfFile receive := by
  refine (Scan.selfDelimiting_next (.inl rfl)).bind fun byte => ?_
  cases Status.ofByte? byte with
  | none => exact Scan.selfDelimiting_throw _
  | some status =>
    refine Frame.selfDelimiting_payload.bind fun payload => ?_
    cases status with
    | ok | complete => exact Scan.selfDelimiting_pure _
    | bad | error | start => exact Scan.selfDelimiting_throw _

/-- The bytes are whole messages of a server that lets the negotiation go on, and the last of them
is a `complete`. -/
def IsServerSide (bytes : Bytes) : Prop :=
  ∃ messages : List (Status × Bytes),
    bytes = messages.flatMap (fun (status, payload) => message status payload) ∧
      (∀ x ∈ messages, (x.1 = .ok ∨ x.1 = .complete) ∧ x.2.length ≤ maxFrameLength) ∧
      messages.getLast?.map Prod.fst = some .complete

section Laws

variable {μ : Type} {m : Mechanism μ} {last : Option Status} {s s' : μ} {incoming rest : Bytes}
  {events : List Event} {result : Except Error Unit}

/-- No message that is received is longer than the limit. -/
theorem Rounds.accepted_of_mem_heard (h : Rounds m last s incoming events result s' rest) :
    ∀ x ∈ Event.heard events, x.2.length ≤ maxFrameLength := by
  induction h with
  | done | cutOff => simp
  | confirmed _ _ delivers | unconfirmed _ _ delivers | gaveUp _ delivers =>
    simpa using delivers.accepted
  | answered _ delivers _ _ ih | takenIn _ delivers _ _ ih =>
    exact List.forall_mem_cons.2 ⟨delivers.accepted, ih⟩

theorem Dialogue.accepted_of_mem_heard (h : Dialogue m s incoming events result s' rest) :
    ∀ x ∈ Event.heard events, x.2.length ≤ maxFrameLength := by
  cases h with
  | unopened => simp
  | opened responds rounds => simpa using rounds.accepted_of_mem_heard

/-- What a dialogue that succeeds takes off what comes in is a server's side. -/
theorem Dialogue.isServerSide (h : Dialogue m s incoming events (.ok ()) s' rest) :
    IsServerSide (Event.heardBytes events) := by
  refine ⟨Event.heard events, rfl, fun x received => ?_, (h.complete_of_ok rfl).2⟩
  exact ⟨h.goesOn_of_mem_statuses x.1 (List.mem_map_of_mem received),
    h.accepted_of_mem_heard x received⟩

end Laws

/-! ## Going on -/

namespace Negotiation

variable {μ : Type} {m : Mechanism μ} {last : Option Status} {party party' : Party μ}
  {incoming rest : Bytes}

/-- The negotiation `go` succeeds on the bytes `consumed`, whatever follows them, with the party
left as given, and it fails for want of input where some of them are missing. -/
structure Confined (go : Bytes → Negotiation μ Unit) (party : Party μ) (consumed : Bytes) :
    Prop where
  whatever : ∀ tail, go (consumed ++ tail) = ⟨.ok (), party, tail⟩
  cut : ∀ part, part <+: consumed → part ≠ consumed →
    ∃ e, (go part).result = .error e ∧ e.IsEndOfFile

theorem closing_of_error {e : Error} (owed : last ≠ some .complete)
    (failed : receive incoming = .error e rest) :
    closing last party incoming = ⟨.error e, party, rest⟩ := by
  rw [closing, if_neg owed, failed]

theorem closing_of_complete {payload : Bytes} (owed : last ≠ some .complete)
    (received : receive incoming = .ok (.complete, payload) rest) :
    closing last party incoming =
      ⟨.ok (), party.note (.received .complete payload), rest⟩ := by
  rw [closing, if_neg owed, received]
  rfl

theorem goOn_of_error {e : Error} (incomplete : m.isComplete party.mechanism = false)
    (failed : receive incoming = .error e rest) :
    goOn m last party incoming = ⟨.error e, party, rest⟩ := by
  rw [goOn, rounds_of_error incomplete failed]

/-- A server that has nothing more to say leaves nothing to take. -/
theorem confined_of_done (complete : m.isComplete party.mechanism = true) :
    Confined (goOn m (some .complete) party) party [] where
  whatever tail := by
    rw [goOn_of_complete complete, closing, if_pos rfl]
    rfl
  cut part within strict := absurd (List.prefix_nil.1 within) strict

/-- The server's `complete` is the last message that is taken. -/
theorem confined_of_confirmed {payload taken : Bytes}
    (complete : m.isComplete party.mechanism = true) (owed : last ≠ some .complete)
    (settles : Scan.Settles Error.IsEndOfFile receive taken (.ok (.complete, payload))) :
    Confined (goOn m last party) (party.note (.received .complete payload)) taken where
  whatever tail := by
    rw [goOn_of_complete complete]
    exact closing_of_complete owed (settles.eq_ending tail)
  cut part within strict := by
    obtain ⟨e, rest, failed, isEnd⟩ := settles.runsOut part within strict
    rw [goOn_of_complete complete, closing_of_error owed failed]
    exact ⟨e, rfl, isEnd⟩

/-- A message that is taken in stands before what is taken behind it. -/
theorem Confined.round {status : Status} {payload taken later : Bytes} {final : Party μ}
    (incomplete : m.isComplete party.mechanism = false)
    (settles : Scan.Settles Error.IsEndOfFile receive taken (.ok (status, payload)))
    (took : party.takeIn m status payload = .ok () party')
    (next : Confined (goOn m (some status) party') final later) :
    Confined (goOn m last party) final (taken ++ later) := by
  have goesOn (tail : Bytes) :
      goOn m last party (taken ++ tail) = goOn m (some status) party' tail := by
    have delivers := receive_eq_ok_iff.1 (settles.eq_ending tail)
    rw [goOn_of_delivers incomplete delivers, took]
  constructor
  · intro tail
    rw [List.append_assoc, goesOn, next.whatever]
  · intro part within strict
    rcases strictPrefix_append within strict with ⟨within, strict⟩ | ⟨part, rfl, within, strict⟩
    · obtain ⟨e, rest, failed, isEnd⟩ := settles.runsOut part within strict
      rw [goOn_of_error incomplete failed]
      exact ⟨e, rfl, isEnd⟩
    · rw [goesOn]
      exact next.cut part within strict

/-- **Behind its opening, a negotiation that succeeds is confined to what it takes.** -/
theorem exists_confined (succeeded : (goOn m last party incoming).result = .ok ()) :
    ∃ consumed, incoming = consumed ++ (goOn m last party incoming).incoming ∧
      Confined (goOn m last party) (goOn m last party incoming).party consumed := by
  -- Each round takes a message off what comes in, as in the loop.
  induction length : incoming.length using Nat.strongRecOn
    generalizing last party incoming with
  | ind n ih =>
  cases complete : m.isComplete party.mechanism with
  | true =>
    by_cases confirmed : last = some .complete
    · subst confirmed
      have confined := confined_of_done complete
      have ended := confined.whatever incoming
      rw [List.nil_append] at ended
      rw [ended]
      exact ⟨[], rfl, confined⟩
    · rw [goOn_of_complete complete] at succeeded
      cases taken : receive incoming with
      | error e rest => simp [closing_of_error confirmed taken] at succeeded
      | ok message rest =>
        obtain ⟨status, payload⟩ := message
        obtain ⟨bytes, rfl, settles⟩ := selfDelimiting_receive.of_ok taken
        rcases (receive_eq_ok_iff.1 taken).goesOn with rfl | rfl
        · simp [closing, confirmed, taken] at succeeded
        · have confined := confined_of_confirmed complete confirmed settles
          rw [confined.whatever rest]
          exact ⟨bytes, rfl, confined⟩
  | false =>
    cases taken : receive incoming with
    | error e rest => simp [goOn_of_error complete taken] at succeeded
    | ok message rest =>
      obtain ⟨status, payload⟩ := message
      have shorter := length_of_receive taken
      have delivers := receive_eq_ok_iff.1 taken
      obtain ⟨bytes, rfl, settles⟩ := selfDelimiting_receive.of_ok taken
      rw [goOn_of_delivers complete delivers] at succeeded
      cases took : party.takeIn m status payload with
      | error e party' => simp [took] at succeeded
      | ok _ party' =>
        simp only [took] at succeeded
        obtain ⟨later, split, next⟩ := ih rest.length (by omega) succeeded rfl
        have confined : Confined (goOn m last party) _ (bytes ++ later) :=
          next.round complete settles took
        have ended := confined.whatever (goOn m (some status) party' rest).incoming
        rw [List.append_assoc, ← split] at ended
        rw [ended]
        exact ⟨bytes ++ later, by rw [List.append_assoc, ← split], confined⟩

/-! ## The negotiation -/

/-- **A negotiation ends with the server's last message.**  If it succeeds, what it took are whole
messages of the server, the last one a `complete`.  Whatever follows them instead, the negotiation
succeeds in the same way, has sent the same bytes, and leaves what follows.  If the messages are cut
off anywhere, it fails because the input ends. -/
theorem run_self_delimiting (m : Mechanism μ) (s : μ) (stream : Stream)
    (succeeded : (run m s stream).result = .ok ()) :
    let n := run m s stream
    ∃ consumed, stream.incoming = consumed ++ n.incoming ∧ IsServerSide consumed ∧
      (∀ tail, run m s { stream with incoming := consumed ++ tail } = { n with incoming := tail }) ∧
      ∀ part, part <+: consumed → part ≠ consumed →
        ∃ e, (run m s { stream with incoming := part }).result = .error e ∧ e.IsEndOfFile := by
  intro n
  have dialogue := dialogue_of_ok succeeded
  cases opened : Party.opening m { mechanism := s, sink := stream.sink } with
  | error e party => simp [run, opened] at succeeded
  | ok _ party =>
    have goesOn (incoming : Bytes) :
        run m s { stream with incoming } = goOn m none party incoming := run_of_opening opened
    have whole : n = goOn m none party stream.incoming := goesOn stream.incoming
    have passed : (goOn m none party stream.incoming).result = .ok () := whole ▸ succeeded
    obtain ⟨consumed, split, confined⟩ := exists_confined passed
    rw [← whole] at split confined
    have heard : Event.heardBytes n.party.events = consumed :=
      List.append_cancel_right (dialogue.incoming_eq.symm.trans split)
    refine ⟨consumed, split, heard ▸ dialogue.isServerSide, fun tail => ?_,
      fun part within strict => ?_⟩
    · have same : n.result = .ok () := succeeded
      rw [goesOn, confined.whatever, ← same]
    · rw [goesOn]
      exact confined.cut part within strict

/-- The server confirms too early and once more at its end, and a frame follows. -/
theorem run_self_delimiting_of_early_complete :
    let m := ScriptedMechanism.mechanism "T"
    let s : ScriptedMechanism :=
      { steps := [.respond [1] false, .respond [2] false, .respond [3] true] }
    let consumed := message .complete [7] ++ message .ok [8] ++ message .complete []
    let stream : Stream := { incoming := consumed ++ Frame.bytes [9] }
    (run m s stream).result = .ok () ∧
      (∀ tail, run m s { stream with incoming := consumed ++ tail } =
        { run m s stream with incoming := tail }) ∧
      ∃ e, (run m s { stream with incoming := message .complete [7] }).result = .error e ∧
        e.IsEndOfFile := by
  intro m s consumed stream
  have succeeded : (run m s stream).result = .ok () := ok_of_isOk (by decide +kernel)
  have left : (run m s stream).incoming = Frame.bytes [9] := by decide +kernel
  obtain ⟨taken, split, -, whatever, cut⟩ := run_self_delimiting m s stream succeeded
  rw [left] at split
  have same : consumed = taken := List.append_cancel_right split
  subst same
  exact ⟨succeeded, whatever, cut _ ⟨_, rfl⟩ (by decide)⟩

end Negotiation

end Sasl

end MetastoreProbe
