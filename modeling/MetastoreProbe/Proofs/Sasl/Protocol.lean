import MetastoreProbe.Proofs.Sasl.Dialogue
import MetastoreProbe.Sasl.Scripted

/-!
# The protocol of a negotiation

What holds of every dialogue, and so of every negotiation: the mechanism is asked for its initial
response once and is given a challenge only while it is not done, `complete` is the last message
that is sent if it is sent at all, a mechanism that fails has the text of its error sent as the
last message, and a negotiation succeeds only when both sides are done.  Each law is an induction
on the dialogue.

`Negotiation.run_follows_protocol` collects them.  It needs no bound on any length: a message is
what is written, with its length in four bytes, also where those do not hold the length.
-/

namespace MetastoreProbe

namespace Sasl

/-! ## Places in a list -/

/-- Something holds at each place of a list just when it holds at the first one and, with the first
one in front, at each of the others. -/
theorem forall_split_cons {α : Type} {P : List α → α → List α → Prop} {y : α} {l : List α} :
    (∀ before x after, y :: l = before ++ x :: after → P before x after) ↔
      P [] y l ∧ ∀ before x after, l = before ++ x :: after → P (y :: before) x after := by
  constructor
  · intro h
    exact ⟨h [] y l rfl, fun before x after split => h (y :: before) x after (by rw [split]; rfl)⟩
  · rintro ⟨first, others⟩ before x after split
    cases before with
    | nil =>
      cases split
      exact first
    | cons z before =>
      cases split
      exact others before x after rfl

/-- All but the last of some elements have a property. -/
theorem forall_mem_dropLast_cons {α : Type} {P : α → Prop} {x : α} {l : List α}
    (first : l = [] ∨ P x) (others : ∀ y ∈ l.dropLast, P y) : ∀ y ∈ (x :: l).dropLast, P y := by
  cases l with
  | nil => exact nofun
  | cons y l =>
    have first : P x := first.resolve_left (List.cons_ne_nil y l)
    rw [List.dropLast_cons_of_ne_nil (List.cons_ne_nil y l)]
    exact List.forall_mem_cons.2 ⟨first, others⟩

/-! ## Laws of a dialogue -/

section Laws

variable {μ : Type} {m : Mechanism μ} {last : Option Status} {s s' : μ} {incoming rest : Bytes}
  {events : List Event} {result : Except Error Unit}

namespace Rounds

/-- The steps tell what the mechanism was asked, so they tell the state that it is left in. -/
theorem after_eq (h : Rounds m last s incoming events result s' rest) :
    m.after s events = s' := by
  induction h with
  | done | confirmed | unconfirmed | cutOff => rfl
  | gaveUp incomplete delivers failed => simp [Mechanism.after, Mechanism.asked?, failed]
  | answered incomplete delivers responds next ih =>
    rw [Mechanism.after_received, Mechanism.after_challenge responds, Mechanism.after_sending, ih]
  | takenIn incomplete delivers responds next ih =>
    rw [Mechanism.after_received, Mechanism.after_challenge responds, ih]

/-- The initial response is not asked for again. -/
theorem initial_not_mem (h : Rounds m last s incoming events result s' rest) :
    .initial ∉ events := by
  induction h with
  | done | confirmed | unconfirmed | cutOff | gaveUp => simp
  | answered _ _ _ _ ih | takenIn _ _ _ _ ih => simp [ih]

/-- A challenge goes to a mechanism that is not done. -/
theorem incomplete_of_challenge (h : Rounds m last s incoming events result s' rest) :
    ∀ before step after, events = before ++ step :: after → ∀ payload,
      step = .challenge payload → m.isComplete (m.after s before) = false := by
  induction h with
  | done | cutOff => simp
  | confirmed | unconfirmed => simp [forall_split_cons]
  | gaveUp incomplete =>
    simpa [forall_split_cons] using incomplete
  | answered incomplete delivers responds next ih
  | takenIn incomplete delivers responds next ih =>
    simpa [forall_split_cons, Mechanism.after_challenge responds] using ⟨incomplete, ih⟩

/-- A mechanism that fails ends the dialogue: the last step sends the text of its error. -/
theorem ends_of_failure (h : Rounds m last s incoming events result s' rest) :
    ∀ before step after, events = before ++ step :: after → ∀ e t,
      m.asked? (m.after s before) step = some (.error e t) →
        result = .error e ∧ after = [.sending .error (Utf8.encode e.message)] := by
  induction h with
  | done | cutOff => simp
  | confirmed | unconfirmed => simp [forall_split_cons, Mechanism.asked?]
  | gaveUp incomplete delivers failed =>
    simp [forall_split_cons, Mechanism.asked?, failed]
  | answered incomplete delivers responds next ih
  | takenIn incomplete delivers responds next ih =>
    simpa [forall_split_cons, Mechanism.asked?, Mechanism.after_challenge responds, responds]
      using ih

/-- A mechanism that is done has nothing to say. -/
theorem sent_of_complete (h : Rounds m last s incoming events result s' rest)
    (complete : m.isComplete s = true) : Event.sent events = [] := by
  cases h with
  | done | confirmed | unconfirmed | cutOff => rfl
  | gaveUp incomplete | answered incomplete | takenIn incomplete => simp [complete] at incomplete

/-- Behind a `complete` nothing is sent, and any other response leaves room for more. -/
theorem sent_eq_nil_or (h : Rounds m last s incoming events result s' rest) :
    Event.sent events = [] ∨ m.status s ≠ .complete := by
  by_cases complete : m.isComplete s = true
  · exact .inl (h.sent_of_complete complete)
  · exact .inr fun status => complete (Mechanism.status_eq_complete_iff.1 status)

/-- Only the last message that is sent can be a `complete`. -/
theorem ne_complete_of_mem_dropLast (h : Rounds m last s incoming events result s' rest) :
    ∀ x ∈ (Event.sent events).dropLast, x.1 ≠ .complete := by
  induction h with
  | done | confirmed | unconfirmed | cutOff | gaveUp => exact nofun
  | takenIn incomplete delivers responds next ih => exact ih
  | answered incomplete delivers responds next ih =>
    exact forall_mem_dropLast_cons next.sent_eq_nil_or ih

/-- The rounds succeed with a mechanism that is done and with the server's `complete`. -/
theorem complete_of_ok (h : Rounds m last s incoming events result s' rest)
    (succeeded : result = .ok ()) :
    m.isComplete s' = true ∧
      ((Event.heard events).getLast?.map Prod.fst).or last = some .complete := by
  induction h with
  | cutOff | gaveUp | unconfirmed => cases succeeded
  | done complete => exact ⟨complete, rfl⟩
  | confirmed complete => exact ⟨complete, rfl⟩
  | @answered _ _ _ _ _ _ _ _ _ events _ _ _ _ _ ih
  | @takenIn _ _ _ _ _ _ _ _ _ events _ _ _ _ _ ih =>
    obtain ⟨complete, heard⟩ := ih succeeded
    refine ⟨complete, ?_⟩
    simp only [Event.heard_received, Event.heard_challenge, Event.heard_sending,
      List.getLast?_cons]
    cases latest : (Event.heard events).getLast? with
    | none => simp [latest] at heard ⊢
    | some message => simpa [latest] using heard

end Rounds

namespace Dialogue

/-- The steps tell what the mechanism was asked, so they tell the state that it is left in. -/
theorem after_eq (h : Dialogue m s incoming events result s' rest) : m.after s events = s' := by
  cases h with
  | unopened failed => simp [Mechanism.after, Mechanism.asked?, failed]
  | opened responds rounds =>
    rw [Mechanism.after_sending, Mechanism.after_initial responds, Mechanism.after_sending,
      rounds.after_eq]

/-- The mechanism is asked for its initial response once. -/
theorem count_initial (h : Dialogue m s incoming events result s' rest) :
    events.count .initial = 1 := by
  cases h with
  | unopened => simp
  | opened responds rounds =>
    have others := List.count_eq_zero.2 rounds.initial_not_mem
    simp [others]

/-- A challenge goes to a mechanism that is not done. -/
theorem incomplete_of_challenge (h : Dialogue m s incoming events result s' rest) :
    ∀ before step after, events = before ++ step :: after → ∀ payload,
      step = .challenge payload → m.isComplete (m.after s before) = false := by
  cases h with
  | unopened => simp [forall_split_cons]
  | opened responds rounds =>
    simpa [forall_split_cons, Mechanism.after_initial responds]
      using rounds.incomplete_of_challenge

/-- A mechanism that fails ends the dialogue: the last step sends the text of its error. -/
theorem ends_of_failure (h : Dialogue m s incoming events result s' rest) :
    ∀ before step after, events = before ++ step :: after → ∀ e t,
      m.asked? (m.after s before) step = some (.error e t) →
        result = .error e ∧ after = [.sending .error (Utf8.encode e.message)] := by
  cases h with
  | unopened failed => simp [forall_split_cons, Mechanism.asked?, failed]
  | opened responds rounds =>
    simpa [forall_split_cons, Mechanism.asked?, Mechanism.after_initial responds, responds]
      using rounds.ends_of_failure

/-- Only the last message that is sent can be a `complete`. -/
theorem ne_complete_of_mem_dropLast (h : Dialogue m s incoming events result s' rest) :
    ∀ x ∈ (Event.sent events).dropLast, x.1 ≠ .complete := by
  cases h with
  | unopened => simp
  | @opened s' _ response _ events _ responds rounds =>
    have answers : ∀ x ∈ ((m.status s', response) :: Event.sent events).dropLast,
        x.1 ≠ .complete :=
      forall_mem_dropLast_cons rounds.sent_eq_nil_or rounds.ne_complete_of_mem_dropLast
    exact forall_mem_dropLast_cons (.inr nofun) answers

/-- A dialogue succeeds with a mechanism that is done and with the server's `complete`. -/
theorem complete_of_ok (h : Dialogue m s incoming events result s' rest)
    (succeeded : result = .ok ()) :
    m.isComplete s' = true ∧ (Event.heard events).getLast?.map Prod.fst = some .complete := by
  cases h with
  | unopened => cases succeeded
  | opened responds rounds =>
    obtain ⟨complete, heard⟩ := rounds.complete_of_ok succeeded
    rw [Option.or_none] at heard
    exact ⟨complete, heard⟩

end Dialogue

end Laws

/-! ## The negotiation -/

namespace Negotiation

variable {μ : Type}

/-- **A negotiation keeps to the protocol**, whatever the mechanism is and whatever the server
sends. -/
theorem run_follows_protocol (m : Mechanism μ) (s : μ) (stream : Stream)
    (unlimited : stream.sink.room = none) :
    let n := run m s stream
    let events := n.party.events
    Dialogue m s stream.incoming events n.result n.party.mechanism n.incoming ∧
      n.party.mechanism = m.after s events ∧
      n.party.sink.sent = stream.sink.sent ++ Event.sentBytes events ∧
      events.count .initial = 1 ∧
      (∀ before payload after, events = before ++ .challenge payload :: after →
        m.isComplete (m.after s before) = false) ∧
      (∀ message ∈ (Event.sent events).dropLast, message.1 ≠ .complete) ∧
      (∀ before ask after e t, events = before ++ ask :: after →
        m.asked? (m.after s before) ask = some (.error e t) →
          n.result = .error e ∧ after = [.sending .error (Utf8.encode e.message)]) ∧
      (n.result = .ok () →
        m.isComplete n.party.mechanism = true ∧
          (Event.heard events).getLast?.map Prod.fst = some .complete) := by
  intro n events
  obtain ⟨steps, result, s', rest, dialogue, shown⟩ := exists_dialogue m s stream unlimited
  have told : events = steps := congrArg (fun n => n.party.events) shown
  have ended : n.result = result := congrArg (fun n => n.result) shown
  have left : n.party.mechanism = s' := congrArg (fun n => n.party.mechanism) shown
  have unread : n.incoming = rest := congrArg (fun n => n.incoming) shown
  have sent : n.party.sink.sent = stream.sink.sent ++ Event.sentBytes steps :=
    congrArg (fun n => n.party.sink.sent) shown
  rw [told, ended, left, unread, sent]
  refine ⟨dialogue, dialogue.after_eq.symm, rfl, dialogue.count_initial, ?_,
    dialogue.ne_complete_of_mem_dropLast, ?_, dialogue.complete_of_ok⟩
  · intro before payload after split
    exact dialogue.incomplete_of_challenge before _ after split payload rfl
  · intro before ask after e t split
    exact dialogue.ends_of_failure before ask after split e t

/-- A server can be done first: its `complete` is taken in without an answer, and the mechanism goes
on until it is done as well. -/
theorem run_follows_protocol_of_server_first :
    let m := ScriptedMechanism.mechanism "T"
    let s : ScriptedMechanism :=
      { steps := [.respond [1] false, .respond [2] false, .respond [3] true] }
    let stream : Stream :=
      { incoming := message .complete [7] ++ message .ok [8] ++ message .complete [] }
    stream.sink.room = none ∧
      (run m s stream).party.sink.sent =
        message .start [84] ++ message .ok [1] ++ message .complete [3] := by
  intro m s stream
  have unlimited : stream.sink.room = none := rfl
  obtain ⟨-, -, sent, -⟩ := run_follows_protocol m s stream unlimited
  have steps : (run m s stream).party.events =
      [.sending .start [84], .initial, .sending .ok [1],
        .received .complete [7], .challenge [7],
        .received .ok [8], .challenge [8], .sending .complete [3],
        .received .complete []] := by
    decide +kernel
  rw [steps] at sent
  exact ⟨unlimited, sent⟩

end Negotiation

end Sasl

end MetastoreProbe
