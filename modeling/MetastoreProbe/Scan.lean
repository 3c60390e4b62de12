/-!
# Scans

A *scan* takes tokens from the front of a list and answers with a value or a fault; what it did
not take is left for the next scan.  Bytes that came over a connection and the characters of a
settings file are both read this way.

A scan that fails also leaves a rest behind: how much was taken before the fault is part of what
it did, and a reader of several messages in a row depends on it.  `orElse` is the exception, since
an alternative starts where the first attempt started.

`iterate` is the only loop.  Each round must take at least one token, so the number of tokens
bounds the rounds and no fuel appears.
-/

namespace MetastoreProbe

/-- Reads tokens `τ` from the front of a list, with faults `ε`. -/
abbrev Scan (τ ε α : Type) : Type := EStateM ε (List τ) α

namespace Scan

variable {τ ε α β σ : Type}

/-! ## Results of composed scans -/

@[simp] theorem pure_apply (a : α) (input : List τ) :
    (pure a : Scan τ ε α) input = .ok a input := rfl

@[simp] theorem throw_apply (e : ε) (input : List τ) :
    (throw e : Scan τ ε α) input = .error e input := rfl

@[simp] theorem bind_apply_of_ok {p : Scan τ ε α} {f : α → Scan τ ε β} {input rest : List τ}
    {a : α} (h : p input = .ok a rest) : (p >>= f) input = f a rest := by
  simp [bind, EStateM.bind, h]

@[simp] theorem bind_apply_of_error {p : Scan τ ε α} {f : α → Scan τ ε β} {input rest : List τ}
    {e : ε} (h : p input = .error e rest) : (p >>= f) input = .error e rest := by
  simp [bind, EStateM.bind, h]

@[simp] theorem discard_apply_of_ok {p : Scan τ ε α} {input rest : List τ} {a : α}
    (h : p input = .ok a rest) : (discard p) input = .ok () rest := by
  simp [discard, Functor.mapConst, EStateM.map, h]

@[simp] theorem discard_apply_of_error {p : Scan τ ε α} {input rest : List τ} {e : ε}
    (h : p input = .error e rest) : (discard p) input = .error e rest := by
  simp [discard, Functor.mapConst, EStateM.map, h]

/-- **A composed scan succeeds exactly when its parts succeed one after the other.** -/
theorem bind_eq_ok_iff {p : Scan τ ε α} {f : α → Scan τ ε β} {input rest : List τ} {b : β} :
    (p >>= f) input = .ok b rest ↔
      ∃ a middle, p input = .ok a middle ∧ f a middle = .ok b rest := by
  cases h : p input <;> simp [bind, EStateM.bind, h, and_assoc]

/-- A composed scan fails where its first part fails or the second one fails on what is left. -/
theorem bind_eq_error_iff {p : Scan τ ε α} {f : α → Scan τ ε β} {input rest : List τ} {e : ε} :
    (p >>= f) input = .error e rest ↔
      p input = .error e rest ∨
        ∃ a middle, p input = .ok a middle ∧ f a middle = .error e rest := by
  cases h : p input <;> simp [bind, EStateM.bind, h, and_assoc]

/-! ## Scans -/

/-- The first token. -/
def next (atEnd : ε) : Scan τ ε τ
  | [] => .error atEnd []
  | t :: rest => .ok t rest

/-- The first token, left in place; nothing at the end. -/
def peek : Scan τ ε (Option τ) := fun input => .ok input.head? input

/-- Exactly `n` tokens.  Where fewer are left they are all taken, and the scan fails. -/
def take (n : Nat) (short : ε) : Scan τ ε (List τ) := fun input =>
  let taken := input.take n
  if taken.length = n then .ok taken (input.drop n) else .error short []

theorem length_of_next {atEnd : ε} {input rest : List τ} {t : τ}
    (h : next atEnd input = .ok t rest) : rest.length + 1 = input.length := by
  cases input <;> cases h
  rfl

theorem length_of_take {n : Nat} {short : ε} {input rest taken : List τ}
    (h : take n short input = .ok taken rest) :
    taken.length = n ∧ rest.length + n = input.length := by
  simp only [take] at h
  split at h
  next enough =>
    cases h
    simp only [List.length_take] at enough
    simp only [List.length_take, List.length_drop]
    omega
  next => cases h

theorem take_append {n : Nat} {taken : List τ} (h : taken.length = n) (short : ε)
    (rest : List τ) : take n short (taken ++ rest) = .ok taken rest := by
  subst h
  simp [take]

/-- Tokens are taken just when they stand in front. -/
theorem take_eq_ok_iff {n : Nat} {short : ε} {input rest taken : List τ} :
    take n short input = .ok taken rest ↔ taken.length = n ∧ input = taken ++ rest := by
  constructor
  · intro h
    refine ⟨(length_of_take h).1, ?_⟩
    simp only [take] at h
    split at h
    next =>
      cases h
      exact (List.take_append_drop n input).symm
    next => cases h
  · rintro ⟨length, rfl⟩
    exact take_append length short rest

/-- Tokens are missing just when there are fewer of them, and then they are all taken. -/
theorem take_eq_error_iff {n : Nat} {short e : ε} {input rest : List τ} :
    take n short input = .error e rest ↔ input.length < n ∧ e = short ∧ rest = [] := by
  unfold take
  by_cases enough : n ≤ input.length
  · simp [enough, Nat.not_lt.2 enough]
  · have few : input.length < n := Nat.lt_of_not_le enough
    have other : (input.take n).length ≠ n := by
      rw [List.length_take]
      omega
    simp only [other, if_false, EStateM.Result.error.injEq, few, true_and]
    exact and_congr eq_comm eq_comm

/-- The longest run of tokens that satisfy `p`. -/
def takeWhile (p : τ → Bool) : Scan τ ε (List τ) := fun input =>
  .ok (input.takeWhile p) (input.dropWhile p)

/-- The second scan takes the place of the first where the first fails, from the same start. -/
def orElse (p q : Scan τ ε α) : Scan τ ε α := fun input =>
  match p input with
  | .ok a rest => .ok a rest
  | .error _ _ => q input

/-- The scan, or nothing taken where it fails. -/
def optional (p : Scan τ ε α) : Scan τ ε (Option α) :=
  orElse (some <$> p) (pure none)

/-- The value of a scan that takes nothing. -/
def lookAhead (p : Scan τ ε α) : Scan τ ε α := fun input =>
  match p input with
  | .ok a _ => .ok a input
  | .error e _ => .error e input

/-- Succeeds at the end of the input only. -/
def atEnd (more : ε) : Scan τ ε Unit
  | [] => .ok () []
  | t :: rest => .error more (t :: rest)

/-- The scan `n` times. -/
def times : Nat → Scan τ ε Unit → Scan τ ε Unit
  | 0, _ => pure ()
  | n + 1, p => do
    p
    times n p

/-- The scan `n` times, with what it read each time. -/
def collect : Nat → Scan τ ε α → Scan τ ε (List α)
  | 0, _ => pure []
  | n + 1, p => do
    let a ← p
    let rest ← collect n p
    pure (a :: rest)

/-- A scan of each part of a text, repeated, scans the whole text. -/
theorem times_flatMap {ι : Type} {xs : List ι} {write : ι → List τ} {p : Scan τ ε Unit}
    (h : ∀ x ∈ xs, ∀ rest, p (write x ++ rest) = .ok () rest) (rest : List τ) :
    times xs.length p (xs.flatMap write ++ rest) = .ok () rest := by
  induction xs with
  | nil => rfl
  | cons x xs ih =>
    have first := h x List.mem_cons_self (xs.flatMap write ++ rest)
    rw [List.flatMap_cons, List.append_assoc, List.length_cons, times, bind_apply_of_ok first]
    exact ih fun y mem => h y (List.mem_cons_of_mem x mem)

theorem collect_flatMap {ι : Type} {xs : List ι} {write : ι → List τ} {value : ι → α}
    {p : Scan τ ε α} (h : ∀ x ∈ xs, ∀ rest, p (write x ++ rest) = .ok (value x) rest)
    (rest : List τ) :
    collect xs.length p (xs.flatMap write ++ rest) = .ok (xs.map value) rest := by
  induction xs with
  | nil => rfl
  | cons x xs ih =>
    have first := h x List.mem_cons_self (xs.flatMap write ++ rest)
    have others := ih fun y mem => h y (List.mem_cons_of_mem x mem)
    rw [List.flatMap_cons, List.append_assoc, List.length_cons, collect, bind_apply_of_ok first,
      bind_apply_of_ok others]
    rfl

/-- Rounds of `step` from the state `s` until one finishes with a result.  A round that goes on
without having taken a token would go on for ever: it fails with `stuck`. -/
def iterate (stuck : ε) (step : σ → Scan τ ε (σ ⊕ β)) (s : σ) : Scan τ ε β := fun input =>
  match step s input with
  | .error e rest => .error e rest
  | .ok (.inr b) rest => .ok b rest
  | .ok (.inl s') rest =>
    if rest.length < input.length then iterate stuck step s' rest else .error stuck rest
termination_by input => input.length

section Rounds

variable {stuck : ε} {step : σ → Scan τ ε (σ ⊕ β)} {s s' : σ} {input rest : List τ}

theorem iterate_of_error {e : ε} (h : step s input = .error e rest) :
    iterate stuck step s input = .error e rest := by
  rw [iterate, h]

theorem iterate_of_inr {b : β} (h : step s input = .ok (.inr b) rest) :
    iterate stuck step s input = .ok b rest := by
  rw [iterate, h]

theorem iterate_of_inl (h : step s input = .ok (.inl s') rest)
    (shorter : rest.length < input.length) :
    iterate stuck step s input = iterate stuck step s' rest := by
  rw [iterate, h]
  exact if_pos shorter

end Rounds

/-- The scan as often as it succeeds and takes something. -/
def many (stuck : ε) (p : Scan τ ε α) : Scan τ ε (List α) :=
  iterate stuck
    (fun (found : List α) => do
      match ← optional p with
      | some a => pure (.inl (a :: found))
      | none => pure (.inr found.reverse))
    []

/-- What a scan reads from a whole input, whatever it leaves. -/
def valueOf (p : Scan τ ε α) (input : List τ) : Except ε α :=
  match p input with
  | .ok a _ => .ok a
  | .error e _ => .error e

theorem valueOf_eq_ok_iff {p : Scan τ ε α} {input : List τ} {a : α} :
    p.valueOf input = .ok a ↔ ∃ rest, p input = .ok a rest := by
  unfold valueOf
  cases p input <;> simp

theorem valueOf_eq_error_iff {p : Scan τ ε α} {input : List τ} {e : ε} :
    p.valueOf input = .error e ↔ ∃ rest, p input = .error e rest := by
  unfold valueOf
  cases p input <;> simp

end Scan

end MetastoreProbe
