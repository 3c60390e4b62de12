import MetastoreProbe.Wire.Reader

/-!
# Faults and what they are due to

A scan that fails was stopped by something.  `Scan.Accounts` says what is known of that, whatever
the scan is given: what it took it would take before any other rest too, some faults never come
about, and one fault, where it comes about, is due to a *trigger*, the last tokens that were taken.
Behind what was taken before the trigger the scan stops for any other trigger as well, whatever
follows (`Scan.StopsBehind`): so it was decided before the trigger that one would stop it.

The property is closed under sequence, repetition and rounds.  For the readers of the binary
protocol the fault is a negative length and the triggers are the four bytes that spell a number
below zero.  A reader stops for them where it reads a string (`string_of_isNegativeLength`) and
nowhere else; a size of a container below zero means none.
-/

namespace MetastoreProbe

/-! ## Accounts -/

namespace Scan

variable {τ ε α β σ : Type}

/-- Behind `before` the scan stops with `fault` for any trigger, whatever follows. -/
def StopsBehind (fault : ε) (IsTrigger : List τ → Prop) (p : Scan τ ε α) (before : List τ) : Prop :=
  ∀ last more, IsTrigger last → p (before ++ (last ++ more)) = .error fault more

/-- What the scan does with an input is accounted for. -/
structure AccountsOn (fault : ε) (IsTrigger : List τ → Prop) (Excluded : ε → Prop)
    (p : Scan τ ε α) (input : List τ) : Prop where
  ok : ∀ {a rest}, p input = .ok a rest →
    ∃ taken, input = taken ++ rest ∧ ∀ more, p (taken ++ more) = .ok a more
  error : ∀ {e rest}, p input = .error e rest → ¬ Excluded e
  stopped : ∀ {rest}, p input = .error fault rest →
    ∃ before last, input = before ++ (last ++ rest) ∧ IsTrigger last ∧
      StopsBehind fault IsTrigger p before

/-- The scan accounts for what it does with any input. -/
def Accounts (fault : ε) (IsTrigger : List τ → Prop) (Excluded : ε → Prop)
    (p : Scan τ ε α) : Prop :=
  ∀ input, AccountsOn fault IsTrigger Excluded p input

section Closure

variable {fault : ε} {IsTrigger : List τ → Prop} {Excluded : ε → Prop}

/-- A scan that does as another one does once it has taken something. -/
theorem AccountsOn.behind {p q : Scan τ ε α} {taken rest : List τ}
    (h : AccountsOn fault IsTrigger Excluded q rest) (same : ∀ more, p (taken ++ more) = q more) :
    AccountsOn fault IsTrigger Excluded p (taken ++ rest) where
  ok read := by
    rw [same] at read
    obtain ⟨more, rfl, again⟩ := h.ok read
    refine ⟨taken ++ more, (List.append_assoc _ _ _).symm, fun rest => ?_⟩
    rw [List.append_assoc, same, again]
  error failed := by
    rw [same] at failed
    exact h.error failed
  stopped failed := by
    rw [same] at failed
    obtain ⟨before, last, rfl, trigger, stops⟩ := h.stopped failed
    refine ⟨taken ++ before, last, (List.append_assoc _ _ _).symm, trigger, ?_⟩
    intro last more trigger
    rw [List.append_assoc, same, stops last more trigger]

/-- A scan that fails as its first part does. -/
theorem AccountsOn.failed {p : Scan τ ε α} {q : Scan τ ε β} {input rest : List τ} {e : ε}
    (h : AccountsOn fault IsTrigger Excluded p input) (failed : p input = .error e rest)
    (passes : ∀ {input e rest}, p input = .error e rest → q input = .error e rest) :
    AccountsOn fault IsTrigger Excluded q input where
  ok read := by cases (passes failed).symm.trans read
  error failed' := by
    cases (passes failed).symm.trans failed'
    exact h.error failed
  stopped failed' := by
    cases (passes failed).symm.trans failed'
    obtain ⟨before, last, split, trigger, stops⟩ := h.stopped failed
    exact ⟨before, last, split, trigger, fun last more trigger => passes (stops last more trigger)⟩

/-- A scan that fails for no trigger. -/
theorem accountsOn_of_error {p : Scan τ ε α} {input rest : List τ} {e : ε}
    (failed : p input = .error e rest) (other : e ≠ fault) (possible : ¬ Excluded e) :
    AccountsOn fault IsTrigger Excluded p input where
  ok read := by cases failed.symm.trans read
  error failed' := by
    cases failed.symm.trans failed'
    exact possible
  stopped failed' := by
    cases failed.symm.trans failed'
    exact absurd rfl other

/-- A scan that stops for a trigger. -/
theorem accountsOn_of_trigger {p : Scan τ ε α} {before last : List τ}
    (stops : StopsBehind fault IsTrigger p before) (trigger : IsTrigger last)
    (possible : ¬ Excluded fault) (rest : List τ) :
    AccountsOn fault IsTrigger Excluded p (before ++ (last ++ rest)) where
  ok read := by cases (stops last rest trigger).symm.trans read
  error failed := by
    cases (stops last rest trigger).symm.trans failed
    exact possible
  stopped failed := by
    cases (stops last rest trigger).symm.trans failed
    exact ⟨before, last, rfl, trigger, stops⟩

/-- A scan that takes the same before any rest. -/
theorem accountsOn_of_ok {p : Scan τ ε α} (taken : List τ) {a : α}
    (read : ∀ more, p (taken ++ more) = .ok a more) (rest : List τ) :
    AccountsOn fault IsTrigger Excluded p (taken ++ rest) where
  ok read' := by
    cases (read rest).symm.trans read'
    exact ⟨taken, rfl, read⟩
  error failed := by cases (read rest).symm.trans failed
  stopped failed := by cases (read rest).symm.trans failed

/-- A scan accounts for what it does also where fewer faults are excluded. -/
theorem Accounts.mono {Excluded' : ε → Prop} {p : Scan τ ε α}
    (h : Accounts fault IsTrigger Excluded p) (fewer : ∀ e, Excluded' e → Excluded e) :
    Accounts fault IsTrigger Excluded' p :=
  fun input =>
    { ok := (h input).ok
      error := fun failed excluded => (h input).error failed (fewer _ excluded)
      stopped := (h input).stopped }

theorem accounts_pure (a : α) : Accounts fault IsTrigger Excluded (pure a : Scan τ ε α) :=
  fun input => accountsOn_of_ok [] (fun _ => rfl) input

theorem accounts_throw {e : ε} (other : e ≠ fault) (possible : ¬ Excluded e) :
    Accounts fault IsTrigger Excluded (throw e : Scan τ ε α) :=
  fun _ => accountsOn_of_error rfl other possible

theorem accounts_next {atEnd : ε} (other : atEnd ≠ fault) (possible : ¬ Excluded atEnd) :
    Accounts fault IsTrigger Excluded (next atEnd : Scan τ ε τ) := by
  intro input
  cases input with
  | nil => exact accountsOn_of_error rfl other possible
  | cons t rest => exact accountsOn_of_ok [t] (fun _ => rfl) rest

theorem accounts_take {short : ε} (other : short ≠ fault) (possible : ¬ Excluded short)
    (n : Nat) : Accounts fault IsTrigger Excluded (take n short : Scan τ ε (List τ)) := by
  intro input
  cases read : take n short input with
  | ok taken rest =>
    obtain ⟨length, rfl⟩ := take_eq_ok_iff.1 read
    exact accountsOn_of_ok taken (take_append length short) rest
  | error e rest =>
    have isShort : e = short := by
      simp only [take] at read
      split at read <;> cases read
      rfl
    subst isShort
    exact accountsOn_of_error read other possible

theorem Accounts.bind {p : Scan τ ε α} {f : α → Scan τ ε β}
    (hp : Accounts fault IsTrigger Excluded p)
    (hf : ∀ a, Accounts fault IsTrigger Excluded (f a)) :
    Accounts fault IsTrigger Excluded (p >>= f) := by
  intro input
  cases first : p input with
  | error e rest => exact (hp input).failed first bind_apply_of_error
  | ok a middle =>
    obtain ⟨taken, rfl, again⟩ := (hp input).ok first
    exact (hf a middle).behind fun more => bind_apply_of_ok (again more)

theorem Accounts.discard {p : Scan τ ε α} (hp : Accounts fault IsTrigger Excluded p) :
    Accounts fault IsTrigger Excluded (discard p : Scan τ ε Unit) := by
  intro input
  cases first : p input with
  | error e rest => exact (hp input).failed first discard_apply_of_error
  | ok a middle =>
    obtain ⟨taken, rfl, again⟩ := (hp input).ok first
    exact accountsOn_of_ok taken (fun more => discard_apply_of_ok (again more)) middle

theorem Accounts.times {p : Scan τ ε Unit} (hp : Accounts fault IsTrigger Excluded p) (n : Nat) :
    Accounts fault IsTrigger Excluded (times n p) := by
  induction n with
  | zero => exact accounts_pure ()
  | succ n ih => exact hp.bind fun _ => ih

theorem Accounts.collect {p : Scan τ ε α} (hp : Accounts fault IsTrigger Excluded p) (n : Nat) :
    Accounts fault IsTrigger Excluded (collect n p) := by
  induction n with
  | zero => exact accounts_pure []
  | succ n ih => exact hp.bind fun a => ih.bind fun _ => accounts_pure _

theorem accounts_iterate {stuck : ε} {step : σ → Scan τ ε (σ ⊕ β)} (other : stuck ≠ fault)
    (possible : ¬ Excluded stuck) (hstep : ∀ s, Accounts fault IsTrigger Excluded (step s))
    (s : σ) : Accounts fault IsTrigger Excluded (iterate stuck step s) := by
  intro input
  -- As in the definition, a round that goes on leaves a shorter input.
  induction length : input.length using Nat.strongRecOn generalizing s input with
  | ind n ih =>
    cases round : step s input with
    | error e rest => exact (hstep s input).failed round iterate_of_error
    | ok next rest =>
      obtain ⟨taken, rfl, again⟩ := (hstep s input).ok round
      cases next with
      | inr b => exact accountsOn_of_ok taken (fun more => iterate_of_inr (again more)) rest
      | inl s' =>
        by_cases shorter : rest.length < (taken ++ rest).length
        · refine (ih rest.length (by omega) s' rest rfl).behind fun more => ?_
          refine iterate_of_inl (again more) ?_
          simp only [List.length_append] at shorter ⊢
          omega
        · have failed : iterate stuck step s (taken ++ rest) = .error stuck rest := by
            rw [iterate, round]
            exact if_neg shorter
          exact accountsOn_of_error failed other possible

end Closure

end Scan

/-! ## Readers -/

/-- Four bytes that spell a number below zero. -/
def IsNegativeLength (bytes : Bytes) : Prop :=
  bytes.length = 4 ∧ 2147483648 ≤ BigEndian.decode bytes

/-- The server says that it could not serve the call, which no reader of values finds. -/
def DecodeFault.IsApplication : DecodeFault → Prop
  | .application _ _ => True
  | _ => False

namespace Reader

variable {α σ : Type}

/-- A string is due behind `before`: any negative length there breaks the reader down, whatever
follows. -/
abbrev StringDue (p : Reader α) (before : Bytes) : Prop :=
  Scan.StopsBehind .negativeLength IsNegativeLength p before

/-- The reader accounts for its negative lengths, and reads a value. -/
abbrev Accounts (p : Reader α) : Prop :=
  Scan.Accounts .negativeLength IsNegativeLength DecodeFault.IsApplication p

theorem accounts_byte : Accounts byte := Scan.accounts_next (by nofun) (by nofun)

theorem accounts_bytes (n : Nat) : Accounts (bytes n) :=
  Scan.accounts_take (by nofun) (by nofun) n

theorem accounts_number (k : Nat) : Accounts (number k) :=
  (accounts_bytes k).bind fun _ => Scan.accounts_pure _

theorem accounts_i16 : Accounts i16 :=
  (accounts_number 2).bind fun _ => Scan.accounts_pure _

theorem accounts_i32 : Accounts i32 :=
  (accounts_number 4).bind fun _ => Scan.accounts_pure _

theorem accounts_count : Accounts count :=
  accounts_i32.bind fun _ => Scan.accounts_pure _

theorem accounts_type : Accounts type := by
  refine accounts_byte.bind fun code => ?_
  cases WireType.ofCode? code with
  | none => exact Scan.accounts_throw nofun nofun
  | some t => exact Scan.accounts_pure t

theorem accounts_fieldHead : Accounts fieldHead := by
  refine accounts_type.bind fun t => ?_
  split
  · exact Scan.accounts_pure _
  · exact accounts_i16.bind fun id => Scan.accounts_pure _

theorem accounts_fields {step : WireType → Int16 → σ → Reader σ}
    (h : ∀ t id s, Accounts (step t id s)) (s : σ) : Accounts (fields step s) := by
  refine Scan.accounts_iterate (by nofun) (by nofun) (fun s => ?_) s
  refine accounts_fieldHead.bind fun head => ?_
  cases head with
  | stop => exact Scan.accounts_pure _
  | field t id => exact (h t id s).bind fun _ => Scan.accounts_pure _

/-- A signed number is read from any four bytes. -/
theorem i32_of_digits {digits : Bytes} (four : digits.length = 4) (rest : Bytes) :
    i32 (digits ++ rest) = .ok (Int32.ofNat (BigEndian.decode digits)) rest := by
  have taken : bytes 4 (digits ++ rest) = .ok digits rest := Scan.take_append four _ rest
  have read : number 4 (digits ++ rest) = .ok (BigEndian.decode digits) rest := by
    rw [number, Scan.bind_apply_of_ok taken]
    rfl
  rw [i32, Scan.bind_apply_of_ok read]
  rfl

theorem exists_of_i32 {input rest : Bytes} {n : Int32} (h : i32 input = .ok n rest) :
    ∃ digits, digits.length = 4 ∧ input = digits ++ rest := by
  obtain ⟨number, middle, read, kept⟩ := Scan.bind_eq_ok_iff.1 h
  obtain ⟨digits, middle', taken, decoded⟩ := Scan.bind_eq_ok_iff.1 read
  obtain ⟨four, rfl⟩ := Scan.take_eq_ok_iff.1 taken
  cases decoded
  cases kept
  exact ⟨digits, four, rfl⟩

/-- Four bytes are read as a number below zero just when they spell one. -/
theorem toInt_lt_zero_iff {digits : Bytes} (four : digits.length = 4) :
    (Int32.ofNat (BigEndian.decode digits)).toInt < 0 ↔ IsNegativeLength digits := by
  have bound : BigEndian.decode digits < 4294967296 := by
    have := BigEndian.decode_lt digits
    rw [four] at this
    exact this
  have signed : (Int32.ofNat (BigEndian.decode digits)).toInt =
      Int.bmod (BigEndian.decode digits) (2 ^ 32) :=
    Int32.toInt_ofNat'
  rw [signed, IsNegativeLength, Int.bmod_def]
  constructor
  · intro negative
    exact ⟨four, by omega⟩
  · intro ⟨_, large⟩
    omega

/-- **A string with a negative length breaks the reader down**, whatever stands behind it. -/
theorem string_of_isNegativeLength {digits : Bytes} (h : IsNegativeLength digits)
    (rest : Bytes) : string (digits ++ rest) = .error .negativeLength rest := by
  rw [string, Scan.bind_apply_of_ok (i32_of_digits h.1 rest)]
  simp only [if_pos ((toInt_lt_zero_iff h.1).2 h)]
  rfl

theorem stringDue_string : StringDue string [] :=
  fun _ more negative => string_of_isNegativeLength negative more

theorem accounts_string : Accounts string := by
  intro input
  cases read : i32 input with
  | error e rest => exact (accounts_i32 input).failed read Scan.bind_apply_of_error
  | ok n rest =>
    obtain ⟨digits, four, rfl⟩ := exists_of_i32 read
    by_cases negative : IsNegativeLength digits
    · exact Scan.accountsOn_of_trigger stringDue_string negative nofun rest
    · -- What the string does behind its length has no name: it is what is left of the program.
      refine Scan.AccountsOn.behind ?_ fun more =>
        (Scan.bind_apply_of_ok (i32_of_digits four more)).trans
          (congrFun (if_neg (mt (toInt_lt_zero_iff four).1 negative)) more)
      refine Scan.Accounts.bind (accounts_bytes _) (fun spelled => ?_) rest
      cases Utf8.decode spelled with
      | ok s => exact Scan.accounts_pure s
      | error fault => exact Scan.accounts_throw nofun nofun

theorem accounts_skipWithin (depth : Nat) (t : WireType) : Accounts (skipWithin depth t) := by
  induction depth generalizing t with
  | zero => exact Scan.accounts_throw nofun nofun
  | succ depth ih =>
    cases t with
    | bool | i08 => exact accounts_byte.discard
    | i16 | i32 | i64 | double => exact (accounts_bytes _).discard
    | string => exact accounts_string.discard
    | struct => exact accounts_fields (fun t _ _ => ih t) ()
    | list | set =>
      exact accounts_type.bind fun t => accounts_count.bind fun n => (ih t).times n
    | map =>
      exact accounts_type.bind fun k => accounts_type.bind fun v => accounts_count.bind fun n =>
        ((ih k).bind fun _ => ih v).times n
    | stop | void | utf8 | utf16 => exact Scan.accounts_throw nofun nofun

theorem accounts_skip (t : WireType) : Accounts (skip t) := accounts_skipWithin _ t

theorem accounts_messageHead : Accounts messageHead := by
  refine (accounts_bytes 4).bind fun word => ?_
  split
  · split
    · exact Scan.accounts_throw nofun nofun
    · split
      · exact Scan.accounts_throw nofun nofun
      · exact accounts_string.bind fun _ => accounts_i32.bind fun _ => Scan.accounts_pure _
  · exact Scan.accounts_throw nofun nofun

end Reader

end MetastoreProbe
