import MetastoreProbe.Proofs.Sasl.Failure

/-!
# A negotiation ends

Only the mechanism says when the rounds are over, and a `complete` of the server does not stop them,
so a mechanism that is never done could go on for ever.  It does not, because each round takes a
whole message off what comes in, and a message has five bytes besides its payload.

`Negotiation.roundsWithin` is the loop without a measure: it gives up where it would have to go
round more often than a limit says.  A fifth of the bytes that come in is limit enough
(`Negotiation.roundsWithin_eq`).  What a negotiation takes of these bytes are whole messages and at
most a part of one (`Consumes`), so that `Negotiation.run_ends` bounds all of the messages, and
with them the challenges that the mechanism is given.
-/

namespace MetastoreProbe

namespace Sasl

/-! ## Messages in a row -/

/-- The bytes of messages, one behind the other. -/
def messages (row : List (Status × Bytes)) : Bytes :=
  row.flatMap fun (status, payload) => message status payload

@[simp] theorem messages_nil : messages [] = [] := rfl

@[simp] theorem messages_singleton (status : Status) (payload : Bytes) :
    messages [(status, payload)] = message status payload :=
  List.append_nil _

theorem messages_append (row later : List (Status × Bytes)) :
    messages (row ++ later) = messages row ++ messages later :=
  List.flatMap_append

theorem length_message (status : Status) (payload : Bytes) :
    (message status payload).length = 5 + payload.length := by
  rw [message, List.length_cons, List.length_append, BigEndian.length_encode]
  omega

/-- Each message has a status and a length. -/
theorem length_messages_le (row : List (Status × Bytes)) :
    5 * row.length ≤ (messages row).length := by
  induction row with
  | nil => exact Nat.le_refl 0
  | cons x row ih =>
    have split : messages (x :: row) = message x.1 x.2 ++ messages row := rfl
    rw [split, List.length_append, length_message, List.length_cons]
    omega

/-- What is taken of bytes that do not start with a message that goes on: a whole message of another
status, or a part in which there is no message. -/
theorem Refused.exists_taken {incoming rest : Bytes} {e : Error}
    (refused : Refused incoming e rest) :
    ∃ (whole : Option (Status × Bytes)) (part : Bytes),
      incoming = messages whole.toList ++ (part ++ rest) ∧
        (∀ x ∈ whole, ¬ (x.1 = .ok ∨ x.1 = .complete)) ∧
        ∀ status payload, ¬ message status payload <+: part := by
  have few {part : Bytes} (short : part.length < 5) (status : Status) (payload : Bytes) :
      ¬ message status payload <+: part := by
    intro within
    have enough := within.length_le
    rw [length_message] at enough
    omega
  cases refused with
  | ended => exact ⟨none, [], rfl, nofun, few (by decide)⟩
  | @unknown byte => exact ⟨none, [byte], rfl, nofun, few (by simp)⟩
  | @unframed status _ _ _ refused =>
    obtain ⟨taken, rfl, broken⟩ := refused.exists_taken
    refine ⟨none, status.byte :: taken, rfl, nofun, fun other payload within => ?_⟩
    rw [message_eq, List.cons_prefix_cons] at within
    exact broken payload within.2
  | @rejected status payload _ gaveUp =>
    refine ⟨some (status, payload), [], ?_, ?_, few (by decide)⟩
    · simp
    · rintro _ ⟨⟩
      rcases gaveUp with rfl | rfl <;> simp
  | @restarted payload =>
    refine ⟨some (.start, payload), [], ?_, ?_, few (by decide)⟩
    · simp
    · rintro _ ⟨⟩
      simp

/-! ## Challenges -/

namespace Event

variable (events later : List Event) (status : Status) (payload : Bytes)

/-- The challenge that a step gives to the mechanism. -/
def challenge? : Event → Option Bytes
  | challenge payload => some payload
  | sending _ _ | received _ _ | initial => none

/-- The challenges that the mechanism is given in some steps, in order. -/
def challenges : List Bytes := events.filterMap challenge?

@[simp] theorem challenges_nil : challenges [] = [] := rfl

@[simp] theorem challenges_sending :
    challenges (sending status payload :: events) = challenges events := rfl

@[simp] theorem challenges_received :
    challenges (received status payload :: events) = challenges events := rfl

@[simp] theorem challenges_initial : challenges (initial :: events) = challenges events := rfl

@[simp] theorem challenges_challenge :
    challenges (challenge payload :: events) = payload :: challenges events := rfl

theorem challenges_append : challenges (events ++ later) = challenges events ++ challenges later :=
  List.filterMap_append

theorem heard_append : heard (events ++ later) = heard events ++ heard later :=
  List.filterMap_append

theorem heardBytes_eq : heardBytes events = messages (heard events) := rfl

end Event

namespace Mechanism

variable {μ : Type} {m : Mechanism μ}

/-- The mechanism is never done: not with its initial response, and not with any challenges that it
is given behind it. -/
def NeverComplete (m : Mechanism μ) (s : μ) : Prop :=
  ∀ challenges : List Bytes,
    m.isComplete (m.after s (.initial :: challenges.map .challenge)) = false

theorem after_append (s : μ) (events later : List Event) :
    m.after s (events ++ later) = m.after (m.after s events) later :=
  List.foldl_append

/-- Behind the initial response only the challenges change the mechanism. -/
theorem after_eq_of_initial_not_mem {events : List Event} (asked : .initial ∉ events) (s : μ) :
    m.after s events = m.after s ((Event.challenges events).map .challenge) := by
  induction events generalizing s with
  | nil => rfl
  | cons event events ih =>
    have later := ih (List.not_mem_of_not_mem_cons asked)
    cases event with
    | initial => exact absurd List.mem_cons_self asked
    | sending status payload => exact later s
    | received status payload => exact later s
    | challenge payload => exact later (m.after s [.challenge payload])

end Mechanism

/-! ## What is consumed -/

/-- What the steps of a negotiation took of what came in: the messages `whole`, and a `part` in
which there is none.  All of the messages were received, but for one behind them that does not let
the negotiation go on. -/
structure Consumes (events : List Event) (incoming : Bytes) (whole : List (Status × Bytes))
    (part rest : Bytes) : Prop where
  eq_append : incoming = messages whole ++ (part ++ rest)
  received : ∃ refused : Option (Status × Bytes),
    whole = Event.heard events ++ refused.toList ∧
      ∀ x ∈ refused, ¬ (x.1 = .ok ∨ x.1 = .complete)
  broken : ∀ status payload, ¬ message status payload <+: part

section Laws

variable {μ : Type} {m : Mechanism μ} {last : Option Status} {s s' : μ} {stream : Stream}
  {incoming unread rest : Bytes} {events later : List Event} {whole : List (Status × Bytes)}
  {part : Bytes} {result : Except Error Unit} {e : Error}

namespace Consumes

/-- What is received is all that is taken. -/
theorem of_received (split : incoming = messages (Event.heard events) ++ rest) :
    Consumes events incoming (Event.heard events) [] rest where
  eq_append := split
  received := ⟨none, (List.append_nil _).symm, nofun⟩
  broken _ _ within := nomatch List.prefix_nil.1 within

/-- **There are no more messages than every fifth byte can start one.** -/
theorem length_whole_le (h : Consumes events incoming whole part rest) :
    whole.length ≤ incoming.length / 5 := by
  have five := length_messages_le whole
  rw [Nat.le_div_iff_mul_le (by decide), h.eq_append, List.length_append]
  omega

theorem length_heard_le (h : Consumes events incoming whole part rest) :
    (Event.heard events).length ≤ whole.length := by
  obtain ⟨refused, rfl, -⟩ := h.received
  rw [List.length_append]
  exact Nat.le_add_right _ _

end Consumes

/-! ### Negotiations that succeed -/

/-- Each challenge is the payload of a message, and the messages are taken in order.  The last one
is no challenge if the mechanism was done. -/
theorem Rounds.challenges_prefix (h : Rounds m last s incoming events result s' rest) :
    Event.challenges events <+: (Event.heard events).map Prod.snd := by
  induction h with
  | done | cutOff => exact List.prefix_rfl
  | confirmed | unconfirmed => exact List.nil_prefix
  | gaveUp => exact List.prefix_rfl
  | answered _ _ _ _ ih | takenIn _ _ _ _ ih => exact (List.prefix_cons_inj _).2 ih

namespace Dialogue

theorem challenges_prefix (h : Dialogue m s incoming events result s' rest) :
    Event.challenges events <+: (Event.heard events).map Prod.snd := by
  cases h with
  | unopened => exact List.prefix_rfl
  | opened responds rounds => exact rounds.challenges_prefix

/-- A mechanism that is never done does not succeed. -/
theorem not_neverComplete (h : Dialogue m s incoming events (.ok ()) s' rest) :
    ¬ m.NeverComplete s := by
  intro never
  obtain ⟨complete, -⟩ := h.complete_of_ok rfl
  cases h with
  | @opened opened _ response _ events _ responds rounds =>
    have asked : m.after opened ((Event.challenges events).map .challenge) = s' := by
      rw [← Mechanism.after_eq_of_initial_not_mem rounds.initial_not_mem, rounds.after_eq]
    have incomplete := never (Event.challenges events)
    rw [Mechanism.after_initial responds, asked, complete] at incomplete
    cases incomplete

end Dialogue

/-! ### Negotiations that fail -/

/-- A message that is delivered is taken behind the messages before it. -/
theorem Delivers.behind {status : Status} {payload : Bytes}
    (delivers : Delivers unread status payload rest)
    (before : incoming = messages (Event.heard events) ++ unread)
    (heard : Event.heard later = [(status, payload)]) :
    incoming = messages (Event.heard (events ++ later)) ++ rest := by
  rw [before, delivers.eq_append, Event.heard_append, heard, messages_append, messages_singleton,
    List.append_assoc]

namespace Progress

/-- As long as all goes right, whole messages are taken. -/
theorem incoming_eq (progress : Progress m s incoming events last s' unread) :
    incoming = messages (Event.heard events) ++ unread := by
  induction progress with
  | opened => rfl
  | answered _ _ delivers _ ih | takenIn _ _ delivers _ ih =>
    exact delivers.behind ih rfl

/-- As long as all goes right, the mechanism is given the payload of each message. -/
theorem challenges_eq (progress : Progress m s incoming events last s' unread) :
    Event.challenges events = (Event.heard events).map Prod.snd := by
  induction progress with
  | opened => rfl
  | answered _ _ _ _ ih | takenIn _ _ _ _ ih =>
    rw [Event.challenges_append, Event.heard_append, List.map_append, ih]
    rfl

/-- The steps tell what the mechanism was asked, so they tell the state that it is in. -/
theorem after_eq (progress : Progress m s incoming events last s' unread) :
    m.after s events = s' := by
  induction progress with
  | opened responds =>
    rw [Mechanism.after_sending, Mechanism.after_initial responds]
    rfl
  | answered _ _ _ responds ih | takenIn _ _ _ responds ih =>
    rw [Mechanism.after_append, ih, Mechanism.after_received, Mechanism.after_challenge responds]
    rfl

end Progress

namespace Negotiation

namespace Fails

theorem exists_consumes (fails : Fails m s stream events e s' rest) :
    ∃ whole part, Consumes events stream.incoming whole part rest := by
  cases fails with
  | unnamed | unopened | unintroduced => exact ⟨_, _, .of_received rfl⟩
  | unanswered progress sent due refused =>
    obtain ⟨other, part, split, refuses, broken⟩ := refused.exists_taken
    refine ⟨Event.heard events ++ other.toList, part, ?_, ⟨other, rfl, refuses⟩, broken⟩
    rw [progress.incoming_eq, split, messages_append, List.append_assoc]
  | gaveUp progress _ _ delivers | unsent progress _ _ delivers
  | unconfirmed progress _ _ _ delivers =>
    exact ⟨_, _, .of_received (delivers.behind progress.incoming_eq rfl)⟩

theorem challenges_prefix (fails : Fails m s stream events e s' rest) :
    Event.challenges events <+: (Event.heard events).map Prod.snd := by
  cases fails with
  | unnamed | unopened | unintroduced => exact List.prefix_rfl
  | unanswered progress => exact progress.challenges_eq ▸ List.prefix_rfl
  | gaveUp progress | unsent progress | unconfirmed progress =>
    rw [Event.challenges_append, Event.heard_append, List.map_append, progress.challenges_eq,
      List.prefix_append_right_inj]
    simp

/-- The steps tell what the mechanism was asked, so they tell the state that it is left in. -/
theorem after_eq (fails : Fails m s stream events e s' rest) : m.after s events = s' := by
  cases fails with
  | unnamed => rfl
  | unopened _ failed => simp [Mechanism.after, Mechanism.asked?, failed]
  | unintroduced _ responds =>
    rw [Mechanism.after_sending, Mechanism.after_initial responds]
    rfl
  | unanswered progress => exact progress.after_eq
  | gaveUp progress _ _ _ failed =>
    rw [Mechanism.after_append, progress.after_eq]
    simp [Mechanism.after, Mechanism.asked?, failed]
  | unsent progress _ _ _ responds =>
    rw [Mechanism.after_append, progress.after_eq, Mechanism.after_received,
      Mechanism.after_challenge responds]
    rfl
  | unconfirmed progress =>
    rw [Mechanism.after_append, progress.after_eq]
    rfl

end Fails

/-! ## The loop without a measure -/

/-- The rounds of a client that goes round a limited number of times: nothing comes of them where it
would have to receive another message. -/
def roundsWithin (m : Mechanism μ) (limit : Nat) (last : Option Status) (party : Party μ)
    (incoming : Bytes) : Option (Negotiation μ (Option Status)) :=
  if m.isComplete party.mechanism then some ⟨.ok last, party, incoming⟩
  else
    match receive incoming, limit with
    | .error e rest, _ => some ⟨.error e, party, rest⟩
    | .ok _ _, 0 => none
    | .ok (status, payload) rest, limit + 1 =>
      match party.takeIn m status payload with
      | .error e party => some ⟨.error e, party, rest⟩
      | .ok _ party => roundsWithin m limit (some status) party rest

/-- The negotiation behind its rounds. -/
def conclude (rounds : Negotiation μ (Option Status)) : Negotiation μ Unit :=
  match rounds with
  | ⟨.error e, party, incoming⟩ => ⟨.error e, party, incoming⟩
  | ⟨.ok last, party, incoming⟩ => closing last party incoming

/-- The negotiation of a client that goes round a limited number of times. -/
def runWithin (limit : Nat) (m : Mechanism μ) (mechanism : μ) (stream : Stream) :
    Option (Negotiation μ Unit) :=
  match Party.opening m { mechanism, sink := stream.sink } with
  | .error e party => some ⟨.error e, party, stream.incoming⟩
  | .ok _ party => (roundsWithin m limit none party stream.incoming).map conclude

/-- **A fifth of the bytes that come in is limit enough**, whatever the mechanism does. -/
theorem roundsWithin_eq {limit : Nat} {party : Party μ} (enough : incoming.length / 5 ≤ limit) :
    roundsWithin m limit last party incoming = some (rounds m last party incoming) := by
  -- A round takes a message off what comes in, and one off the limit.
  fun_induction roundsWithin m limit last party incoming with
  | case1 limit last party incoming complete => rw [rounds_of_complete complete]
  | case2 limit last party incoming going e rest failed =>
    rw [rounds_of_error (Bool.eq_false_iff.2 going) failed]
  | case3 last party incoming going message rest taken =>
    have shorter := length_of_receive taken
    omega
  | case4 last party incoming going status payload rest limit taken e party' took =>
    have delivers := receive_eq_ok_iff.1 taken
    rw [rounds_of_delivers (Bool.eq_false_iff.2 going) delivers, took]
  | case5 last party incoming going status payload rest limit taken u party' took ih =>
    have delivers := receive_eq_ok_iff.1 taken
    have shorter := length_of_receive taken
    rw [rounds_of_delivers (Bool.eq_false_iff.2 going) delivers, took]
    exact ih (by omega)

theorem runWithin_eq (m : Mechanism μ) (s : μ) (stream : Stream) :
    runWithin (stream.incoming.length / 5) m s stream = some (run m s stream) := by
  unfold runWithin run
  cases Party.opening m { mechanism := s, sink := stream.sink } with
  | error e party => rfl
  | ok _ party =>
    dsimp only
    rw [roundsWithin_eq (Nat.le_refl _)]
    rfl

/-! ## The negotiation -/

/-- Whatever comes of a negotiation, its steps tell what was taken and what the mechanism was
asked. -/
theorem run_accounts (m : Mechanism μ) (s : μ) (stream : Stream) :
    let n := run m s stream
    let events := n.party.events
    (∃ whole part, Consumes events stream.incoming whole part n.incoming) ∧
      m.after s events = n.party.mechanism ∧
      Event.challenges events <+: (Event.heard events).map Prod.snd := by
  intro n events
  rcases run_succeeds_or_fails m s stream with
    ⟨steps, s', rest, run_eq, -⟩ | ⟨steps, e, s', rest, fails⟩
  · have succeeded : (run m s stream).result = .ok () := by rw [run_eq]
    have dialogue := dialogue_of_ok succeeded
    have split := dialogue.incoming_eq
    rw [Event.heardBytes_eq] at split
    exact ⟨⟨_, _, .of_received split⟩, dialogue.after_eq, dialogue.challenges_prefix⟩
  · have ended : n = ⟨.error e, (Party.fresh s stream).advanced s' steps, rest⟩ := fails.run_eq
    have told : events = steps := congrArg (fun n => n.party.events) ended
    rw [told, ended]
    exact ⟨fails.exists_consumes, fails.after_eq, fails.challenges_prefix⟩

/-- **A negotiation ends, also with a mechanism that is never done.**  Where `most` is a fifth of
the number of bytes that come in, the loop goes round at most `most` times.  What is taken are at
most `most` whole messages and a part of one, and the challenges that the mechanism is given, which
are payloads of these messages and leave it in its last state, are no more.  A mechanism that is
never done always leads to an error. -/
theorem run_ends (m : Mechanism μ) (s : μ) (stream : Stream) :
    let n := run m s stream
    let events := n.party.events
    let most := stream.incoming.length / 5
    runWithin most m s stream = some n ∧
      (∃ whole part, Consumes events stream.incoming whole part n.incoming ∧
        whole.length ≤ most) ∧
      n.party.mechanism = m.after s events ∧
      Event.challenges events <+: (Event.heard events).map Prod.snd ∧
      (Event.challenges events).length ≤ most ∧
      (m.NeverComplete s → ∃ e, n.result = .error e) := by
  intro n events most
  obtain ⟨⟨whole, part, consumes⟩, after_eq, given⟩ := run_accounts m s stream
  have bounded : whole.length ≤ most := consumes.length_whole_le
  have few : (Event.challenges events).length ≤ most := by
    have received := given.length_le
    rw [List.length_map] at received
    exact Nat.le_trans received (Nat.le_trans consumes.length_heard_le bounded)
  refine ⟨runWithin_eq m s stream, ⟨whole, part, consumes, bounded⟩, after_eq.symm, given, few,
    fun never => ?_⟩
  cases ended : n.result with
  | error e => exact ⟨e, rfl⟩
  | ok u => exact absurd never (dialogue_of_ok ended).not_neverComplete

/-- The mechanism sends each challenge back and is never done.  All of the server's messages are
taken in, a `complete` among them, and the two bytes behind them are none. -/
theorem run_ends_of_echo :
    let m : Mechanism Unit :=
      { name := "T", initialResponse := pure [1], evaluate := pure, isComplete := fun _ => false }
    let stream : Stream :=
      { incoming := message .ok [] ++ message .complete [] ++ message .ok [] ++ [2, 0] }
    let n := run m () stream
    m.NeverComplete () ∧ (∃ e, n.result = .error e) ∧ runWithin 3 m () stream = some n ∧
      stream.incoming.length / 5 = 3 ∧ Event.challenges n.party.events = [[], [], []] := by
  intro m stream n
  have never : m.NeverComplete () := fun _ => rfl
  have most : stream.incoming.length / 5 = 3 := by decide
  obtain ⟨within, -, -, -, -, fails⟩ := run_ends m () stream
  rw [most] at within
  exact ⟨never, fails never, within, most, by decide +kernel⟩

end Negotiation

end Laws

end Sasl

end MetastoreProbe
