import MetastoreProbe.Proofs.Sasl.Protocol

/-!
# What a negotiation accepts

A negotiation succeeds when the mechanism is done and the server's last message was `complete`.
Nothing is asked of the messages before the last one but that they let the negotiation go on, so
that a `complete` need not be the server's last word: if the mechanism waits for more when it has
taken one in, the client goes on reading (`Confirms.early`).

`Negotiation.statuses_of_ok` says what is accepted, over any sink: a sink with a limit makes no
difference to a negotiation that succeeds (`Negotiation.run_freed`), because it took every message
whole.  The server's messages are some `ok` and one `complete` behind them just when no `complete`
came too early for the mechanism.
-/

namespace MetastoreProbe

/-! ## Limits that were not reached -/

/-- The sink without its limit. -/
def Sink.freed (s : Sink) : Sink := { s with room := none }

/-- What a limited sink takes whole, it takes without its limit as well. -/
theorem Sink.write_freed {s s' : Sink} {xs : Bytes} (h : s.write xs = .ok () s') :
    s.freed.write xs = .ok () s'.freed := by
  unfold write at h
  split at h
  next unlimited =>
    cases h
    rfl
  next room limited =>
    split at h
    next fits =>
      cases h
      rfl
    next => cases h

namespace Sasl

namespace Party

variable {μ α : Type} {p p' : Party μ}

/-- The party over a sink without its limit. -/
def freed (p : Party μ) : Party μ := { p with sink := p.sink.freed }

theorem send_freed {status : Status} {payload : Bytes} (h : p.send status payload = .ok () p') :
    p.freed.send status payload = .ok () p'.freed := by
  unfold send at h ⊢
  cases written : (p.note (.sending status payload)).sink.write (message status payload) with
  | error e sink => simp [written] at h
  | ok _ sink =>
    have again : (p.freed.note (.sending status payload)).sink.write (message status payload) =
        .ok () sink.freed := Sink.write_freed written
    simp only [written] at h
    cases h
    simp only [again]
    rfl

theorem answer_freed {m : Mechanism μ} {response : Bytes} (h : p.answer m response = .ok () p') :
    p.freed.answer m response = .ok () p'.freed :=
  send_freed h

/-- Giving up is never a success. -/
theorem abort_ne_ok (e : Error) (a : α) : p.abort e ≠ .ok a p' := by
  unfold abort
  split <;> nofun

theorem ask_freed {event : Event} {response : EStateM Error μ Bytes} {bytes : Bytes}
    (h : p.ask event response = .ok bytes p') :
    p.freed.ask event response = .ok bytes p'.freed := by
  unfold ask at h ⊢
  have same : (p.freed.note event).mechanism = (p.note event).mechanism := rfl
  simp only [same]
  cases asked : response (p.note event).mechanism with
  | error e s' =>
    simp only [asked] at h
    exact absurd h (abort_ne_ok e bytes)
  | ok found s' =>
    simp only [asked] at h
    cases h
    rfl

theorem bind_eq_ok_iff {β : Type} {x : EStateM Error (Party μ) α}
    {f : α → EStateM Error (Party μ) β} {b : β} :
    (x >>= f) p = .ok b p' ↔ ∃ a between, x p = .ok a between ∧ f a between = .ok b p' := by
  cases h : x p <;> simp [bind, EStateM.bind, h, and_assoc]

theorem opening_freed {m : Mechanism μ} (h : p.opening m = .ok () p') :
    p.freed.opening m = .ok () p'.freed := by
  obtain ⟨_, started, sent, opened⟩ := bind_eq_ok_iff.1 h
  obtain ⟨response, asked, found, answered⟩ := bind_eq_ok_iff.1 opened
  refine bind_eq_ok_iff.2 ⟨(), started.freed, send_freed sent, ?_⟩
  exact bind_eq_ok_iff.2 ⟨response, asked.freed, ask_freed found, answer_freed answered⟩

theorem takeIn_freed {m : Mechanism μ} {status : Status} {payload : Bytes}
    (h : p.takeIn m status payload = .ok () p') :
    p.freed.takeIn m status payload = .ok () p'.freed := by
  obtain ⟨_, noted, received, evaluated⟩ := bind_eq_ok_iff.1 h
  cases received
  obtain ⟨response, asked, found, sent⟩ := bind_eq_ok_iff.1 evaluated
  refine bind_eq_ok_iff.2 ⟨(), (p.note (.received status payload)).freed, rfl, ?_⟩
  refine bind_eq_ok_iff.2 ⟨response, asked.freed, ask_freed found, ?_⟩
  by_cases last : status = .complete
  · rw [if_pos last] at sent ⊢
    cases sent
    rfl
  · rw [if_neg last] at sent ⊢
    exact answer_freed sent

end Party

namespace Negotiation

variable {μ α : Type} {m : Mechanism μ} {s : μ} {last : Option Status} {party : Party μ}
  {incoming : Bytes}

/-- The negotiation over a sink without its limit. -/
def freed (n : Negotiation μ α) : Negotiation μ α := { n with party := n.party.freed }

theorem goOn_of_complete (complete : m.isComplete party.mechanism = true) :
    goOn m last party incoming = closing last party incoming := by
  rw [goOn, rounds_of_complete complete]

/-- Behind the opening, a negotiation goes on in rounds. -/
theorem run_of_opening {stream : Stream}
    (opened : Party.opening m { mechanism := s, sink := stream.sink } = .ok () party) :
    run m s stream = goOn m none party stream.incoming := by
  rw [run, opened]
  rfl

theorem goOn_freed (succeeded : (goOn m last party incoming).result = .ok ()) :
    goOn m last party.freed incoming = (goOn m last party incoming).freed := by
  -- Each round takes a message off what comes in, as in the loop.
  induction length : incoming.length using Nat.strongRecOn
    generalizing last party incoming with
  | ind n ih =>
  have same : party.freed.mechanism = party.mechanism := rfl
  cases complete : m.isComplete party.mechanism with
  | true =>
    have complete' : m.isComplete party.freed.mechanism = true := complete
    rw [goOn_of_complete complete, goOn_of_complete complete', closing, closing]
    split
    · rfl
    · split
      · rfl
      · dsimp only
        split <;> rfl
  | false =>
    cases taken : receive incoming with
    | error e rest => simp [goOn, rounds_of_error complete taken] at succeeded
    | ok message rest =>
      obtain ⟨status, payload⟩ := message
      have delivers := receive_eq_ok_iff.1 taken
      have shorter := length_of_receive taken
      have complete' : m.isComplete party.freed.mechanism = false := complete
      rw [goOn_of_delivers complete delivers] at succeeded ⊢
      rw [goOn_of_delivers complete' delivers]
      cases took : party.takeIn m status payload with
      | error e party' => simp [took] at succeeded
      | ok _ party' =>
        simp only [took] at succeeded
        rw [Party.takeIn_freed took]
        exact ih rest.length (by omega) succeeded rfl

/-- **A limit that was not reached makes no difference**: what succeeds over a limited sink goes in
the same way without the limit. -/
theorem run_freed {stream : Stream} (succeeded : (run m s stream).result = .ok ()) :
    run m s { stream with sink := stream.sink.freed } = (run m s stream).freed := by
  cases opened : Party.opening m { mechanism := s, sink := stream.sink } with
  | error e party => simp [run, opened] at succeeded
  | ok _ party =>
    have again : Party.opening m { mechanism := s, sink := stream.sink.freed } =
        .ok () party.freed := Party.opening_freed opened
    rw [run_of_opening opened] at succeeded ⊢
    rw [run_of_opening again]
    exact goOn_freed succeeded

/-- A negotiation that succeeds is a dialogue, whatever the limit of its sink. -/
theorem dialogue_of_ok {stream : Stream} (succeeded : (run m s stream).result = .ok ()) :
    let n := run m s stream
    Dialogue m s stream.incoming n.party.events (.ok ()) n.party.mechanism n.incoming := by
  intro n
  obtain ⟨steps, result, s', rest, dialogue, shown⟩ :=
    exists_dialogue m s { stream with sink := stream.sink.freed } rfl
  rw [run_freed succeeded] at shown
  have ended : n.result = result := congrArg (fun n => n.result) shown
  have told : n.party.events = steps := congrArg (fun n => n.party.events) shown
  have left : n.party.mechanism = s' := congrArg (fun n => n.party.mechanism) shown
  have unread : n.incoming = rest := congrArg (fun n => n.incoming) shown
  have fine : result = .ok () := ended.symm.trans succeeded
  rw [told, left, unread, ← fine]
  exact dialogue

end Negotiation

/-! ## The server's messages -/

/-- The statuses of the messages that are received in some steps, in order. -/
def Event.statuses (events : List Event) : List Status := (heard events).map Prod.fst

namespace Event

variable (events : List Event) (status : Status) (payload : Bytes)

/-- The bytes of the messages that are received in some steps. -/
def heardBytes : Bytes :=
  (heard events).flatMap fun (status, payload) => message status payload

@[simp] theorem statuses_nil : statuses [] = [] := rfl

@[simp] theorem statuses_sending : statuses (sending status payload :: events) = statuses events :=
  rfl

@[simp] theorem statuses_received :
    statuses (received status payload :: events) = status :: statuses events := rfl

@[simp] theorem statuses_initial : statuses (initial :: events) = statuses events := rfl

@[simp] theorem statuses_challenge : statuses (challenge payload :: events) = statuses events := rfl

end Event

section Laws

variable {μ : Type} {m : Mechanism μ} {last : Option Status} {s s' : μ} {incoming rest : Bytes}
  {events : List Event} {result : Except Error Unit}

/-- What follows the server's `complete`, received in the state `s` of the mechanism, if the
negotiation succeeds. -/
inductive Confirms (m : Mechanism μ) (s : μ) (payload : Bytes) : List Event → Prop
  /-- The mechanism was done: nothing is left to do. -/
  | awaited (complete : m.isComplete s = true) : Confirms m s payload []
  /-- The mechanism is done with what came along. -/
  | settled {s' : μ} {response : Bytes} (incomplete : m.isComplete s = false)
    (responds : m.evaluate payload s = .ok response s') (complete : m.isComplete s' = true) :
    Confirms m s payload [.challenge payload]
  /-- The mechanism waits for more, and the server's next message is received. -/
  | early {s' : μ} {response next : Bytes} {status : Status} {later : List Event}
    (incomplete : m.isComplete s = false) (responds : m.evaluate payload s = .ok response s')
    (waits : m.isComplete s' = false) :
    Confirms m s payload (.challenge payload :: .received status next :: later)

/-- Some `complete` of the server came before the mechanism was done. -/
def Early (m : Mechanism μ) (s : μ) (events : List Event) : Prop :=
  ∃ before payload later,
    events = before ++ .received .complete payload :: .challenge payload :: later ∧
      m.isComplete (m.after s (before ++ [.received .complete payload, .challenge payload])) = false

/-- A `complete` that is too early is the first step, or one of the others. -/
theorem early_cons {step : Event} :
    Early m s (step :: events) ↔
      (∃ payload later, step = .received .complete payload ∧ events = .challenge payload :: later ∧
        m.isComplete (m.after s [step, .challenge payload]) = false) ∨
      Early m (m.after s [step]) events := by
  constructor
  · rintro ⟨before, payload, later, split, waits⟩
    cases before with
    | nil =>
      cases split
      exact .inl ⟨payload, later, rfl, rfl, waits⟩
    | cons first before =>
      cases split
      exact .inr ⟨before, payload, later, rfl, waits⟩
  · rintro (⟨payload, later, rfl, rfl, waits⟩ | ⟨before, payload, later, rfl, waits⟩)
    · exact ⟨[], payload, later, rfl, waits⟩
    · exact ⟨step :: before, payload, later, rfl, waits⟩

/-- A message that goes on is not too early, nor is its answer. -/
theorem early_answered {payload response answer : Bytes} {status : Status}
    (responds : m.evaluate payload s = .ok response s') :
    Early m s (.received .ok payload :: .challenge payload :: .sending status answer :: events) ↔
      Early m s' events := by
  have evaluated : m.after s [.challenge payload] = s' := Mechanism.after_challenge responds
  simp [early_cons, evaluated]

/-- A `complete` that is taken in is too early if it leaves the mechanism waiting. -/
theorem early_takenIn {payload response : Bytes}
    (responds : m.evaluate payload s = .ok response s') :
    Early m s (.received .complete payload :: .challenge payload :: events) ↔
      m.isComplete s' = false ∨ Early m s' events := by
  have evaluated : m.after s [.challenge payload] = s' := Mechanism.after_challenge responds
  simp [early_cons, evaluated]

theorem not_early_nil : ¬ Early m s [] := by
  rintro ⟨before, payload, later, split, -⟩
  simp at split

namespace Rounds

/-- Only messages that let the negotiation go on are received. -/
theorem goesOn_of_mem_statuses (h : Rounds m last s incoming events result s' rest) :
    ∀ status ∈ Event.statuses events, status = .ok ∨ status = .complete := by
  induction h with
  | done | cutOff => simp
  | confirmed | unconfirmed => simp
  | gaveUp incomplete delivers => simpa using delivers.goesOn
  | answered _ _ _ _ ih | takenIn _ _ _ _ ih => simpa using ih

/-- When both sides are done, nothing is left to do. -/
theorem events_eq_nil (h : Rounds m (some .complete) s incoming events result s' rest)
    (complete : m.isComplete s = true) : events = [] := by
  cases h with
  | done => rfl
  | confirmed _ owed | unconfirmed _ owed => exact absurd rfl owed
  | cutOff due => exact absurd rfl (due complete)
  | gaveUp incomplete | answered incomplete | takenIn incomplete => simp [complete] at incomplete

/-- While the mechanism is not done, a success takes another message. -/
theorem exists_received (h : Rounds m last s incoming events (.ok ()) s' rest)
    (incomplete : m.isComplete s = false) :
    ∃ status payload later, events = .received status payload :: later := by
  cases h with
  | done complete | confirmed complete => simp [incomplete] at complete
  | answered | takenIn => exact ⟨_, _, _, rfl⟩

/-- A success goes on behind each `complete` in one of the ways there are. -/
theorem confirms (h : Rounds m last s incoming events result s' rest)
    (succeeded : result = .ok ()) :
    ∀ before step after, events = before ++ step :: after → ∀ payload,
      step = .received .complete payload → Confirms m (m.after s before) payload after := by
  induction h with
  | done | cutOff => simp
  | unconfirmed | gaveUp => cases succeeded
  | confirmed complete =>
    simpa [forall_split_cons] using Confirms.awaited complete
  | answered incomplete delivers responds next ih =>
    simpa [forall_split_cons, Mechanism.after_challenge responds] using ih succeeded
  | @takenIn _ s s' _ _ payload _ _ _ events _ incomplete delivers responds next ih =>
    have first : Confirms m s payload (.challenge payload :: events) := by
      cases complete : m.isComplete s' with
      | true =>
        rw [next.events_eq_nil complete]
        exact .settled incomplete responds complete
      | false =>
        subst succeeded
        obtain ⟨status, received, later, rfl⟩ := next.exists_received complete
        exact .early incomplete responds complete
    simpa [forall_split_cons, Mechanism.after_challenge responds] using ⟨first, ih succeeded⟩

/-- The server's `complete` comes once and last just when it never comes too early. -/
theorem statuses_eq_iff (h : Rounds m last s incoming events result s' rest)
    (succeeded : result = .ok ()) (owed : last ≠ some .complete) :
    (∃ k, Event.statuses events = List.replicate k .ok ++ [.complete]) ↔ ¬ Early m s events := by
  induction h with
  | done => exact absurd rfl owed
  | cutOff | unconfirmed | gaveUp => cases succeeded
  | confirmed =>
    refine ⟨fun _ => ?_, fun _ => ⟨0, rfl⟩⟩
    simp [early_cons, not_early_nil]
  | answered incomplete delivers responds next ih =>
    rw [early_answered responds, ← ih succeeded nofun, Event.statuses_received,
      Event.statuses_challenge, Event.statuses_sending]
    constructor
    · rintro ⟨k, split⟩
      cases k with
      | zero => simp at split
      | succ k =>
        simp only [List.replicate_succ, List.cons_append, List.cons.injEq, true_and] at split
        exact ⟨k, split⟩
    · rintro ⟨k, split⟩
      exact ⟨k + 1, by rw [split, List.replicate_succ, List.cons_append]⟩
  | @takenIn _ s s' _ _ _ _ _ _ events _ incomplete delivers responds next ih =>
    rw [early_takenIn responds, Event.statuses_received, Event.statuses_challenge]
    cases complete : m.isComplete s' with
    | true =>
      rw [next.events_eq_nil complete]
      refine ⟨fun _ => ?_, fun _ => ⟨0, rfl⟩⟩
      simp [not_early_nil]
    | false =>
      subst succeeded
      obtain ⟨status, received, later, rfl⟩ := next.exists_received complete
      simp only [true_or, not_true_eq_false, iff_false]
      rintro ⟨k, split⟩
      cases k with
      | zero => simp at split
      | succ k => simp [List.replicate_succ] at split

/-- A success takes just the messages that it receives off what comes in. -/
theorem incoming_eq (h : Rounds m last s incoming events result s' rest)
    (succeeded : result = .ok ()) : incoming = Event.heardBytes events ++ rest := by
  induction h with
  | done => rfl
  | cutOff | unconfirmed | gaveUp => cases succeeded
  | confirmed _ _ delivers =>
    rw [delivers.eq_append]
    simp [Event.heardBytes]
  | answered _ delivers _ _ ih | takenIn _ delivers _ _ ih =>
    rw [delivers.eq_append, ih succeeded]
    simp [Event.heardBytes]

end Rounds

namespace Dialogue

theorem goesOn_of_mem_statuses (h : Dialogue m s incoming events result s' rest) :
    ∀ status ∈ Event.statuses events, status = .ok ∨ status = .complete := by
  cases h with
  | unopened => simp
  | opened responds rounds => simpa using rounds.goesOn_of_mem_statuses

theorem getLast?_statuses (h : Dialogue m s incoming events (.ok ()) s' rest) :
    (Event.statuses events).getLast? = some .complete := by
  rw [Event.statuses, List.getLast?_map]
  exact (h.complete_of_ok rfl).2

theorem confirms (h : Dialogue m s incoming events (.ok ()) s' rest) :
    ∀ before step after, events = before ++ step :: after → ∀ payload,
      step = .received .complete payload → Confirms m (m.after s before) payload after := by
  cases h with
  | opened responds rounds =>
    simpa [forall_split_cons, Mechanism.after_initial responds] using rounds.confirms rfl

theorem statuses_eq_iff (h : Dialogue m s incoming events (.ok ()) s' rest) :
    (∃ k, Event.statuses events = List.replicate k .ok ++ [.complete]) ↔ ¬ Early m s events := by
  cases h with
  | opened responds rounds =>
    have asked : m.after s [.initial] = _ := Mechanism.after_initial responds
    simpa [early_cons, asked] using rounds.statuses_eq_iff rfl nofun

theorem incoming_eq (h : Dialogue m s incoming events (.ok ()) s' rest) :
    incoming = Event.heardBytes events ++ rest := by
  cases h with
  | opened responds rounds => exact rounds.incoming_eq rfl

end Dialogue

end Laws

namespace Negotiation

variable {μ : Type}

/-- **What a negotiation accepts.**  If it succeeds, the server's messages that it consumed are
those that let it go on, and the last one is a `complete`.  Behind a `complete` nothing is sent, and
another message is received just when the mechanism waits for more.  So the messages are some `ok`
and one `complete` behind them just when no `complete` came too early. -/
theorem statuses_of_ok (m : Mechanism μ) (s : μ) (stream : Stream)
    (succeeded : (run m s stream).result = .ok ()) :
    let n := run m s stream
    let events := n.party.events
    let statuses := Event.statuses events
    stream.incoming = Event.heardBytes events ++ n.incoming ∧
      (∀ status ∈ statuses, status = .ok ∨ status = .complete) ∧
      statuses.getLast? = some .complete ∧
      (∀ before payload after, events = before ++ .received .complete payload :: after →
        Confirms m (m.after s before) payload after) ∧
      ((∃ k, statuses = List.replicate k .ok ++ [.complete]) ↔ ¬ Early m s events) := by
  intro n events statuses
  have dialogue := dialogue_of_ok succeeded
  refine ⟨dialogue.incoming_eq, dialogue.goesOn_of_mem_statuses, dialogue.getLast?_statuses, ?_,
    dialogue.statuses_eq_iff⟩
  intro before payload after split
  exact dialogue.confirms before _ after split payload rfl

theorem ok_of_isOk {result : Except Error Unit} (h : result.isOk = true) : result = .ok () := by
  cases result with
  | ok u => rfl
  | error e => cases h

/-- The sink takes just the bytes that are sent, and the server confirms in its second message. -/
theorem statuses_of_ok_of_tight_sink :
    let m := ScriptedMechanism.mechanism "T"
    let s : ScriptedMechanism := { steps := [.respond [1] false, .respond [2] true] }
    let stream : Stream :=
      { incoming := message .ok [7] ++ message .complete [8] ++ [9], sink := { room := some 18 } }
    (run m s stream).result = .ok () ∧
      Event.statuses (run m s stream).party.events = List.replicate 1 .ok ++ [.complete] ∧
      ¬ Early m s (run m s stream).party.events := by
  intro m s stream
  have succeeded : (run m s stream).result = .ok () := ok_of_isOk (by decide +kernel)
  have heard : Event.statuses (run m s stream).party.events =
      List.replicate 1 .ok ++ [.complete] := by decide +kernel
  obtain ⟨-, -, -, -, once⟩ := statuses_of_ok m s stream succeeded
  exact ⟨succeeded, heard, once.1 ⟨1, heard⟩⟩

/-- A `complete` can be followed by a message that is read, evaluated and answered. -/
theorem ok_of_early_complete :
    let m := ScriptedMechanism.mechanism "T"
    let s : ScriptedMechanism :=
      { steps := [.respond [1] false, .respond [2] false, .respond [3] true] }
    let stream : Stream :=
      { incoming := message .complete [7] ++ message .ok [8] ++ message .complete [] }
    let n := run m s stream
    n.result = .ok () ∧
      n.party.events = [.sending .start [84], .initial, .sending .ok [1],
        .received .complete [7], .challenge [7], .received .ok [8], .challenge [8],
        .sending .complete [3], .received .complete []] ∧
      ¬ ∃ k, Event.statuses n.party.events = List.replicate k .ok ++ [.complete] := by
  intro m s stream n
  have succeeded : (run m s stream).result = .ok () := ok_of_isOk (by decide +kernel)
  have steps : n.party.events = [.sending .start [84], .initial, .sending .ok [1],
      .received .complete [7], .challenge [7], .received .ok [8], .challenge [8],
      .sending .complete [3], .received .complete []] := by
    decide +kernel
  refine ⟨succeeded, steps, ?_⟩
  rw [steps]
  rintro ⟨k, split⟩
  cases k with
  | zero => simp at split
  | succ k => simp [List.replicate_succ] at split

end Negotiation

end Sasl

end MetastoreProbe
