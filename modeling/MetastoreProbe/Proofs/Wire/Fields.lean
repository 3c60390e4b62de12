import MetastoreProbe.Proofs.Wire.Faults

/-!
# Structs field by field

A struct is read by a loop whose step sees one field at a time.  `Reader.TakesFields` says what such
a loop does without saying how long it goes on: it takes the head of a field and the field's value,
over and over, up to the stop tag.  `Reader.fields_eq_ok_iff` says that this is all there is to it,
so that a law about structs is an induction on the fields that were taken.
-/

namespace MetastoreProbe

namespace Reader

variable {α σ : Type} {step : WireType → Int16 → σ → Reader σ}

/-- The step takes one field after the other off the input, up to the stop tag.  It starts in the
first state and ends in the second one, and the rest of the input is left. -/
inductive TakesFields (step : WireType → Int16 → σ → Reader σ) : σ → Bytes → σ → Bytes → Prop
  | stop {s : σ} {input rest : Bytes} (head : fieldHead input = .ok .stop rest) :
    TakesFields step s input s rest
  | field {s s' s'' : σ} {t : WireType} {id : Int16} {input body middle rest : Bytes}
    (head : fieldHead input = .ok (.field t id) body) (value : step t id s body = .ok s' middle)
    (more : TakesFields step s' middle s'' rest) : TakesFields step s input s'' rest

/-! ## What readers leave -/

theorem length_of_accounts {p : Reader α} (h : Accounts p) {input rest : Bytes} {a : α}
    (read : p input = .ok a rest) : rest.length ≤ input.length := by
  obtain ⟨taken, rfl, -⟩ := (h input).ok read
  simp

/-- The tag in front of a field is taken at least. -/
theorem length_of_fieldHead {input rest : Bytes} {head : FieldHead}
    (read : fieldHead input = .ok head rest) : rest.length < input.length := by
  obtain ⟨t, body, tag, read⟩ := Scan.bind_eq_ok_iff.1 read
  obtain ⟨code, afterCode, first, known⟩ := Scan.bind_eq_ok_iff.1 tag
  have shorter : afterCode.length + 1 = input.length := Scan.length_of_next first
  have kept : body = afterCode := by
    cases found : WireType.ofCode? code <;> rw [found] at known <;> cases known
    rfl
  subst kept
  have behind : rest.length ≤ body.length := by
    split at read
    · cases read
      exact Nat.le_refl _
    · exact length_of_accounts (accounts_i16.bind fun id => Scan.accounts_pure _) read
  omega

/-! ## The loop -/

theorem takesFields_of_ok {s s' : σ} {input rest : Bytes}
    (read : fields step s input = .ok s' rest) : TakesFields step s input s' rest := by
  -- As in the loop, a round that goes on leaves a shorter input.
  induction length : input.length using Nat.strongRecOn generalizing s input with
  | ind n ih =>
    unfold fields at read
    rw [Scan.iterate] at read
    split at read
    next => cases read
    next b rest' round =>
      cases read
      obtain ⟨head, body, opened, ended⟩ := Scan.bind_eq_ok_iff.1 round
      cases head with
      | stop =>
        cases ended
        exact .stop opened
      | field t id =>
        obtain ⟨s', middle, value, goesOn⟩ := Scan.bind_eq_ok_iff.1 ended
        cases goesOn
    next next middle round =>
      split at read
      next shorter =>
        obtain ⟨head, body, opened, goesOn⟩ := Scan.bind_eq_ok_iff.1 round
        cases head with
        | stop => cases goesOn
        | field t id =>
          obtain ⟨s', middle', value, kept⟩ := Scan.bind_eq_ok_iff.1 goesOn
          cases kept
          exact .field opened value (ih _ (by omega) read rfl)
      next => cases read

theorem ok_of_takesFields (accounts : ∀ t id s, Accounts (step t id s)) {s s' : σ}
    {input rest : Bytes} (takes : TakesFields step s input s' rest) :
    fields step s input = .ok s' rest := by
  induction takes with
  | stop head =>
    refine Scan.iterate_of_inr ?_
    rw [Scan.bind_apply_of_ok head]
    rfl
  | @field s s' s'' t id input body middle rest head value more ih =>
    rw [← ih]
    refine Scan.iterate_of_inl ?_ ?_
    · rw [Scan.bind_apply_of_ok head]
      exact Scan.bind_apply_of_ok value
    · have afterHead := length_of_fieldHead head
      have afterValue := length_of_accounts (accounts t id s) value
      omega

/-- **A struct is read to its end just when its fields are taken one after the other.** -/
theorem fields_eq_ok_iff (accounts : ∀ t id s, Accounts (step t id s)) {s s' : σ}
    {input rest : Bytes} :
    fields step s input = .ok s' rest ↔ TakesFields step s input s' rest :=
  ⟨takesFields_of_ok, ok_of_takesFields accounts⟩

end Reader

end MetastoreProbe
