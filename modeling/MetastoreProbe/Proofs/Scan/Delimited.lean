import MetastoreProbe.Scan

/-!
# Self-delimiting scans

A scan is *self-delimiting* if it ends where what it takes ends.  Nothing that stands behind what it
took changes what it comes to, in a success or in a failure, and where some of what it took is
missing it finds that the input ends too early.  `Scan.Settles` says so of some tokens, and
`Scan.SelfDelimiting` of the scan: on every input it either runs out or settles on what it takes.

Which faults mean that the input ends is left open (`IsEnd`), because messages and streams report it
in different ways.  The property is closed under sequence, repetition and rounds, so that it holds
of whatever is made of scans that take tokens one after the other; a scan that looks ahead does not
have it.
-/

namespace MetastoreProbe

/-- A strict prefix of two lists in a row ends within the first one, or within the second one. -/
theorem strictPrefix_append {τ : Type} {part xs ys : List τ} (h : part <+: xs ++ ys)
    (strict : part ≠ xs ++ ys) :
    part <+: xs ∧ part ≠ xs ∨ ∃ later, part = xs ++ later ∧ later <+: ys ∧ later ≠ ys := by
  rcases List.prefix_or_prefix_of_prefix h (List.prefix_append xs ys) with within | ⟨later, rfl⟩
  · by_cases whole : part = xs
    · subst whole
      refine .inr ⟨[], (List.append_nil part).symm, List.nil_prefix, ?_⟩
      rintro rfl
      exact strict (List.append_nil part).symm
    · exact .inl ⟨within, whole⟩
  · refine .inr ⟨later, rfl, (List.prefix_append_right_inj xs).1 h, ?_⟩
    rintro rfl
    exact strict rfl

namespace Scan

variable {τ ε α β σ : Type}

/-- The tokens that a scan leaves, whatever it comes to. -/
def unread (p : Scan τ ε α) (input : List τ) : List τ :=
  match p input with
  | .ok _ rest | .error _ rest => rest

/-- What a scan gives that comes to `outcome` and leaves `rest`. -/
def ending (outcome : Except ε α) (rest : List τ) : EStateM.Result ε (List τ) α :=
  match outcome with
  | .ok a => .ok a rest
  | .error e => .error e rest

/-- The scan fails because the input ends. -/
def RunsOut (IsEnd : ε → Prop) (p : Scan τ ε α) (input : List τ) : Prop :=
  ∃ e rest, p input = .error e rest ∧ IsEnd e

/-- The scan comes to `outcome` on the tokens `taken`, whatever stands behind them, and runs out
where some of them are missing. -/
structure Settles (IsEnd : ε → Prop) (p : Scan τ ε α) (taken : List τ) (outcome : Except ε α) :
    Prop where
  eq_ending : ∀ more, p (taken ++ more) = ending outcome more
  runsOut : ∀ part, part <+: taken → part ≠ taken → RunsOut IsEnd p part

/-- The scan runs out of the input, or settles on what it takes from it. -/
def SettlesOn (IsEnd : ε → Prop) (p : Scan τ ε α) (input : List τ) : Prop :=
  RunsOut IsEnd p input ∨
    ∃ taken rest outcome, input = taken ++ rest ∧ Settles IsEnd p taken outcome

/-- The scan ends where what it takes ends. -/
def SelfDelimiting (IsEnd : ε → Prop) (p : Scan τ ε α) : Prop :=
  ∀ input, SettlesOn IsEnd p input

variable {IsEnd : ε → Prop}

/-- What a scan reads with success, it settles on. -/
theorem SelfDelimiting.of_ok {p : Scan τ ε α} (h : SelfDelimiting IsEnd p) {input rest : List τ}
    {a : α} (read : p input = .ok a rest) :
    ∃ taken, input = taken ++ rest ∧ Settles IsEnd p taken (.ok a) := by
  rcases h input with ⟨e, left, failed, -⟩ | ⟨taken, left, outcome, rfl, settles⟩
  · cases failed.symm.trans read
  · have ended := (settles.eq_ending left).symm.trans read
    cases outcome with
    | error e => cases ended
    | ok a' =>
      cases ended
      exact ⟨taken, rfl, settles⟩

/-- **What a self-delimiting scan takes is all that it needs**, and no part of it is enough. -/
theorem SelfDelimiting.exists_taken {p : Scan τ ε α} (h : SelfDelimiting IsEnd p) {input : List τ}
    (enough : ¬ RunsOut IsEnd p input) :
    ∃ taken, input = taken ++ p.unread input ∧
      (∀ more, p.valueOf (taken ++ more) = p.valueOf input ∧ p.unread (taken ++ more) = more) ∧
      ∀ part, part <+: taken → part ≠ taken → RunsOut IsEnd p part := by
  obtain ⟨taken, rest, outcome, rfl, settles⟩ := (h input).resolve_left enough
  have results (more : List τ) :
      p.valueOf (taken ++ more) = outcome ∧ p.unread (taken ++ more) = more := by
    unfold valueOf unread
    rw [settles.eq_ending]
    cases outcome <;> exact ⟨rfl, rfl⟩
  refine ⟨taken, by rw [(results rest).2], fun more => ?_, settles.runsOut⟩
  rw [(results rest).1]
  exact results more

/-! ## One scan behind another -/

/-- A scan that goes on as another one does, once it has taken something, and runs out before. -/
theorem Settles.behind {p : Scan τ ε α} {q : Scan τ ε α} {taken later : List τ}
    {outcome : Except ε α} (h : Settles IsEnd q later outcome)
    (same : ∀ more, p (taken ++ more) = q more)
    (runsOut : ∀ part, part <+: taken → part ≠ taken → RunsOut IsEnd p part) :
    Settles IsEnd p (taken ++ later) outcome where
  eq_ending more := by rw [List.append_assoc, same, h.eq_ending]
  runsOut part within strict := by
    rcases strictPrefix_append within strict with ⟨within, strict⟩ | ⟨part, rfl, within, strict⟩
    · exact runsOut part within strict
    · obtain ⟨e, rest, failed, isEnd⟩ := h.runsOut part within strict
      exact ⟨e, rest, (same part).trans failed, isEnd⟩

theorem SettlesOn.behind {p : Scan τ ε α} {q : Scan τ ε α} {taken rest : List τ}
    (h : SettlesOn IsEnd q rest) (same : ∀ more, p (taken ++ more) = q more)
    (runsOut : ∀ part, part <+: taken → part ≠ taken → RunsOut IsEnd p part) :
    SettlesOn IsEnd p (taken ++ rest) := by
  rcases h with ⟨e, left, failed, isEnd⟩ | ⟨later, left, outcome, rfl, settles⟩
  · exact .inl ⟨e, left, (same rest).trans failed, isEnd⟩
  · exact .inr ⟨taken ++ later, left, outcome, (List.append_assoc _ _ _).symm,
      settles.behind same runsOut⟩

/-- A scan that fails as its first part does. -/
theorem RunsOut.passedOn {p : Scan τ ε α} {q : Scan τ ε β} {input : List τ}
    (h : RunsOut IsEnd p input)
    (passes : ∀ {input e rest}, p input = .error e rest → q input = .error e rest) :
    RunsOut IsEnd q input := by
  obtain ⟨e, rest, failed, isEnd⟩ := h
  exact ⟨e, rest, passes failed, isEnd⟩

theorem Settles.passedOn {p : Scan τ ε α} {q : Scan τ ε β} {taken : List τ} {e : ε}
    (h : Settles IsEnd p taken (.error e))
    (passes : ∀ {input e rest}, p input = .error e rest → q input = .error e rest) :
    Settles IsEnd q taken (.error e) where
  eq_ending more := passes (h.eq_ending more)
  runsOut part within strict := (h.runsOut part within strict).passedOn passes

/-- A scan that starts with another one: it fails as that one does, and behind what that one took
it settles as well. -/
theorem SettlesOn.followedBy {p : Scan τ ε α} {q : Scan τ ε β} {input : List τ}
    (h : SettlesOn IsEnd p input)
    (passes : ∀ {input e rest}, p input = .error e rest → q input = .error e rest)
    (next : ∀ taken rest a, input = taken ++ rest → (∀ more, p (taken ++ more) = .ok a more) →
      ∃ q' : Scan τ ε β, (∀ more, q (taken ++ more) = q' more) ∧ SettlesOn IsEnd q' rest) :
    SettlesOn IsEnd q input := by
  rcases h with runsOut | ⟨taken, rest, outcome, rfl, settles⟩
  · exact .inl (runsOut.passedOn passes)
  · cases outcome with
    | error e => exact .inr ⟨taken, rest, .error e, rfl, settles.passedOn passes⟩
    | ok a =>
      obtain ⟨q', same, settlesOn⟩ := next taken rest a rfl settles.eq_ending
      exact settlesOn.behind same fun part within strict =>
        (settles.runsOut part within strict).passedOn passes

/-! ## What self-delimiting scans are made of -/

/-- A scan that takes nothing. -/
theorem settlesOn_of_nothing {p : Scan τ ε α} {outcome : Except ε α}
    (h : ∀ input, p input = ending outcome input) (input : List τ) : SettlesOn IsEnd p input := by
  refine .inr ⟨[], input, outcome, rfl, h, fun part within strict => ?_⟩
  exact absurd (List.prefix_nil.1 within) strict

theorem selfDelimiting_pure (a : α) : SelfDelimiting IsEnd (pure a : Scan τ ε α) :=
  settlesOn_of_nothing fun _ => (rfl : _ = ending (.ok a) _)

theorem selfDelimiting_throw (e : ε) : SelfDelimiting IsEnd (throw e : Scan τ ε α) :=
  settlesOn_of_nothing fun _ => (rfl : _ = ending (.error e) _)

theorem selfDelimiting_next {atEnd : ε} (isEnd : IsEnd atEnd) :
    SelfDelimiting IsEnd (next atEnd : Scan τ ε τ) := by
  intro input
  cases input with
  | nil => exact .inl ⟨atEnd, [], rfl, isEnd⟩
  | cons t rest =>
    refine .inr ⟨[t], rest, .ok t, rfl, fun _ => rfl, fun part within strict => ?_⟩
    rcases List.prefix_cons_iff.1 within with rfl | ⟨later, rfl, empty⟩
    · exact ⟨atEnd, [], rfl, isEnd⟩
    · rw [List.prefix_nil.1 empty] at strict
      exact absurd rfl strict

theorem take_of_short {n : Nat} {input : List τ} (few : input.length < n) (short : ε) :
    take n short input = .error short [] :=
  take_eq_error_iff.2 ⟨few, rfl, rfl⟩

theorem selfDelimiting_take {short : ε} (isEnd : IsEnd short) (n : Nat) :
    SelfDelimiting IsEnd (take n short : Scan τ ε (List τ)) := by
  intro input
  by_cases few : input.length < n
  · exact .inl ⟨short, [], take_of_short few short, isEnd⟩
  · have enough : (input.take n).length = n := by
      rw [List.length_take]
      omega
    refine .inr ⟨input.take n, input.drop n, .ok (input.take n),
      (List.take_append_drop n input).symm, take_append enough short, fun part within strict => ?_⟩
    have shorter : part.length < n := by
      have := within.length_le
      have : part.length ≠ (input.take n).length := fun same => strict (within.eq_of_length same)
      omega
    exact ⟨short, [], take_of_short shorter short, isEnd⟩

theorem SelfDelimiting.bind {p : Scan τ ε α} {f : α → Scan τ ε β} (hp : SelfDelimiting IsEnd p)
    (hf : ∀ a, SelfDelimiting IsEnd (f a)) : SelfDelimiting IsEnd (p >>= f) := by
  intro input
  refine (hp input).followedBy bind_apply_of_error fun taken rest a _ read => ?_
  exact ⟨f a, fun more => bind_apply_of_ok (read more), hf a rest⟩

theorem SelfDelimiting.discard {p : Scan τ ε α} (hp : SelfDelimiting IsEnd p) :
    SelfDelimiting IsEnd (discard p : Scan τ ε Unit) := by
  intro input
  refine (hp input).followedBy discard_apply_of_error fun taken rest a _ read => ?_
  exact ⟨pure (), fun more => discard_apply_of_ok (read more), selfDelimiting_pure () rest⟩

theorem SelfDelimiting.times {p : Scan τ ε Unit} (hp : SelfDelimiting IsEnd p) (n : Nat) :
    SelfDelimiting IsEnd (times n p) := by
  induction n with
  | zero => exact selfDelimiting_pure ()
  | succ n ih => exact hp.bind fun _ => ih

theorem SelfDelimiting.collect {p : Scan τ ε α} (hp : SelfDelimiting IsEnd p) (n : Nat) :
    SelfDelimiting IsEnd (collect n p) := by
  induction n with
  | zero => exact selfDelimiting_pure []
  | succ n ih => exact hp.bind fun a => ih.bind fun _ => selfDelimiting_pure _

theorem selfDelimiting_iterate {stuck : ε} {step : σ → Scan τ ε (σ ⊕ β)}
    (hstep : ∀ s, SelfDelimiting IsEnd (step s)) (s : σ) :
    SelfDelimiting IsEnd (iterate stuck step s) := by
  intro input
  -- As in the definition, a round that goes on leaves a shorter input.
  induction length : input.length using Nat.strongRecOn generalizing s input with
  | ind n ih =>
    refine (hstep s input).followedBy iterate_of_error fun taken rest next split read => ?_
    cases next with
    | inr b => exact ⟨pure b, fun more => iterate_of_inr (read more), selfDelimiting_pure b rest⟩
    | inl s' =>
      by_cases empty : taken = []
      · -- Nothing was taken, so every input is refused.
        subst empty
        refine ⟨throw stuck, fun more => ?_, selfDelimiting_throw stuck rest⟩
        have round : step s more = .ok (.inl s') more := read more
        rw [List.nil_append, iterate, round]
        exact if_neg (Nat.lt_irrefl _)
      · have some : 0 < taken.length := List.length_pos_iff.2 empty
        refine ⟨iterate stuck step s', fun more => iterate_of_inl (read more) ?_, ?_⟩
        · rw [List.length_append]
          omega
        · refine ih rest.length ?_ s' rest rfl
          rw [← length, split, List.length_append]
          omega

end Scan

end MetastoreProbe
