import Mathlib.Data.String.Basic
import MetastoreProbe.Text.Utf8

/-!
# Text is no longer than its bytes

`Utf8.utf8ByteSize_of_decode` bounds the length of text that was read by the number of bytes that
it was read from.  A character that is under way fits into its bytes, those that are still missing
included (`Utf8.Partial.Fits`): the lead byte leaves it few enough bits, and each byte behind it
uses up the six bits that it adds.
-/

namespace MetastoreProbe

namespace Utf8

/-! ## Widths of characters -/

theorem toNat_ofNat_le (n : Nat) : (Char.ofNat n).toNat ≤ n := by
  by_cases valid : n.isValidChar
  · have same : Char.ofNat n = Char.ofNatAux n valid := dif_pos valid
    rw [same]
    exact Nat.le_refl n
  · have replaced : Char.ofNat n = Char.ofNat 0 := dif_neg valid
    rw [replaced]
    exact Nat.zero_le n

section Widths

variable {n : Nat}

theorem utf8Size_ofNat_le_one (small : n < 0x80) : (Char.ofNat n).utf8Size ≤ 1 := by
  have number : (Char.ofNat n).val.toNat ≤ n := toNat_ofNat_le n
  refine Nat.le_of_eq (Char.utf8Size_eq_one_iff.2 ?_)
  rw [UInt32.le_iff_toNat_le]
  show _ ≤ 0x7F
  omega

theorem utf8Size_ofNat_le_two (small : n < 0x800) : (Char.ofNat n).utf8Size ≤ 2 := by
  have number : (Char.ofNat n).val.toNat ≤ n := toNat_ofNat_le n
  have three := Char.utf8Size_eq_three_iff (c := Char.ofNat n)
  have four := Char.utf8Size_eq_four_iff (c := Char.ofNat n)
  simp only [UInt32.lt_iff_toNat_lt, UInt32.reduceToNat] at three four
  have most := (Char.ofNat n).utf8Size_le_four
  omega

theorem utf8Size_ofNat_le_three (small : n < 0x10000) : (Char.ofNat n).utf8Size ≤ 3 := by
  have number : (Char.ofNat n).val.toNat ≤ n := toNat_ofNat_le n
  have four := Char.utf8Size_eq_four_iff (c := Char.ofNat n)
  simp only [UInt32.lt_iff_toNat_lt, UInt32.reduceToNat] at four
  have most := (Char.ofNat n).utf8Size_le_four
  omega

end Widths

/-! ## Lead bytes -/

theorem single_of_lead {b : UInt8} (single : lead b = .single) : b.toNat < 0x80 := by
  unfold lead at single
  split at single
  next small => exact UInt8.lt_iff_toNat_lt.1 small
  repeat' split at single
  all_goals cases single

/-- A lead byte does not leave more bits to the bytes that follow than these can have. -/
theorem bounds_of_lead {b : UInt8} {tails bits : Nat} {low high : UInt8}
    (wide : lead b = .wide tails low high bits) :
    high.toNat ≤ 0xBF ∧ (tails = 1 ∧ bits < 0x20 ∨ tails = 2 ∧ bits < 0x10 ∨ tails = 3) := by
  unfold lead at wide
  simp only [UInt8.lt_iff_toNat_lt, ← UInt8.toNat_inj, UInt8.reduceToNat] at wide
  repeat' split at wide
  all_goals
    cases wide
    try exact ⟨by decide, by omega⟩

/-! ## A character under way -/

/-- However a character under way goes on, it is no wider than the bytes that it consists of. -/
structure Partial.Fits (p : Partial) : Prop where
  goesOn : 0 < p.missing
  high : p.high.toNat ≤ 0xBF
  width : ∀ n < 64 ^ p.missing,
    (Char.ofNat (p.bits * 64 ^ p.missing + n)).utf8Size ≤ p.seen + p.missing

theorem fits_of_lead {b : UInt8} {tails bits : Nat} {low high : UInt8}
    (wide : lead b = .wide tails low high bits) : Partial.Fits ⟨bits, tails, low, high, 1⟩ := by
  obtain ⟨most, ⟨rfl, bound⟩ | ⟨rfl, bound⟩ | rfl⟩ := bounds_of_lead wide
  · refine ⟨Nat.succ_pos _, most, fun n small => utf8Size_ofNat_le_two ?_⟩
    dsimp only at small ⊢
    omega
  · refine ⟨Nat.succ_pos _, most, fun n small => utf8Size_ofNat_le_three ?_⟩
    dsimp only at small ⊢
    omega
  · exact ⟨Nat.succ_pos _, most, fun n _ => Char.utf8Size_le_four _⟩

theorem fits_none : ∀ p ∈ (none : Option Partial), p.Fits := nofun

/-- How many bytes of a character have been read. -/
def seen (under : Option Partial) : Nat := under.elim 0 Partial.seen

/-- Another six bits leave a character that fits. -/
theorem Partial.Fits.more {p : Partial} (fits : p.Fits) (notLast : ¬ p.missing ≤ 1) {six : Nat}
    (small : six < 64) :
    Partial.Fits ⟨p.bits * 64 + six, p.missing - 1, 0x80, 0xBF, p.seen + 1⟩ := by
  obtain ⟨missing, more⟩ : ∃ missing, p.missing = missing + 1 := ⟨p.missing - 1, by omega⟩
  have width := fits.width
  rw [more] at notLast width ⊢
  refine ⟨by dsimp only; omega, Nat.le_refl 0xBF, fun n below => ?_⟩
  simp only [Nat.add_sub_cancel] at below ⊢
  have number : (p.bits * 64 + six) * 64 ^ missing + n =
      p.bits * 64 ^ (missing + 1) + (six * 64 ^ missing + n) := by
    rw [Nat.pow_succ, Nat.add_mul, Nat.mul_assoc, Nat.mul_comm 64, Nat.add_assoc]
  -- The six bits and all that is still to come are together what was to come before.
  have room : six * 64 ^ missing + n < 64 ^ (missing + 1) := calc
    _ < six * 64 ^ missing + 64 ^ missing := Nat.add_lt_add_left below _
    _ = (six + 1) * 64 ^ missing := (Nat.succ_mul _ _).symm
    _ ≤ 64 * 64 ^ missing := Nat.mul_le_mul_right _ small
    _ = 64 ^ (missing + 1) := by rw [Nat.pow_succ, Nat.mul_comm]
  rw [number]
  have bound := width _ room
  omega

/-- A byte goes on with a character, or completes one that is no wider than its bytes, or is
malformed. -/
theorem advance_cases {under : Option Partial} (fits : ∀ p ∈ under, p.Fits) (b : UInt8) :
    (∃ p, advance under b = ([], some p) ∧ p.Fits ∧ p.seen = seen under + 1) ∨
      (∃ c, advance under b = ([.char c], none) ∧ c.utf8Size ≤ seen under + 1) ∨
      ∃ length pieces after, advance under b = (.malformed length :: pieces, after) := by
  cases under with
  | none =>
    cases found : lead b with
    | single =>
      refine .inr (.inl ⟨Char.ofNat b.toNat, by simp only [advance, start, found], ?_⟩)
      exact utf8Size_ofNat_le_one (single_of_lead found)
    | wide tails low high bits =>
      exact .inl ⟨_, by simp only [advance, start, found], fits_of_lead found, rfl⟩
    | never => exact .inr (.inr ⟨1, [], none, by simp only [advance, start, found]⟩)
  | some p =>
    have fits := fits p rfl
    by_cases within : p.low ≤ b ∧ b ≤ p.high
    · have small : b.toNat - 0x80 < 64 := by
        have below := UInt8.le_iff_toNat_le.1 within.2
        have most := fits.high
        omega
      by_cases last : p.missing ≤ 1
      · have one : p.missing = 1 := by
          have positive := fits.goesOn
          omega
        have width := fits.width
        rw [one] at width
        refine .inr (.inl ⟨Char.ofNat (p.bits * 64 + (b.toNat - 0x80)), ?_, width _ small⟩)
        simp only [advance, if_pos within, if_pos last]
      · refine .inl ⟨⟨p.bits * 64 + (b.toNat - 0x80), p.missing - 1, 0x80, 0xBF, p.seen + 1⟩, ?_,
          fits.more last small, rfl⟩
        simp only [advance, if_pos within, if_neg last]
    · refine .inr (.inr ⟨p.seen, (start b).1, (start b).2, ?_⟩)
      simp only [advance, if_neg within]

/-! ## The whole text -/

/-- Each byte counts for at most one byte of the text, those of the character under way included. -/
theorem utf8Len_le {under : Option Partial} (fits : ∀ p ∈ under, p.Fits) {bytes : Bytes}
    {index : Nat} {cs : List Char} (read : charsFrom index (piecesFrom under bytes) = .ok cs) :
    String.utf8Len cs ≤ seen under + bytes.length := by
  -- A character may be under way where the bytes start, and is carried along.
  induction bytes generalizing under index cs with
  | nil =>
    cases under with
    | none =>
      cases read
      exact Nat.zero_le _
    | some p => cases read
  | cons b bytes ih =>
    rw [piecesFrom] at read
    rcases advance_cases fits b with ⟨p, step, fits', counted⟩ | ⟨c, step, narrow⟩ | ⟨_, _, _, step⟩
    · rw [step] at read
      have fitsAll : ∀ q ∈ some p, q.Fits := by
        rintro _ ⟨⟩
        exact fits'
      have bound := ih fitsAll read
      have one : seen (some p) = seen under + 1 := counted
      rw [List.length_cons]
      omega
    · rw [step] at read
      cases more : charsFrom (index + c.utf8Size) (piecesFrom none bytes) with
      | error fault =>
        simp only [List.cons_append, List.nil_append, charsFrom, more] at read
        cases read
      | ok others =>
        simp only [List.cons_append, List.nil_append, charsFrom, more] at read
        cases read
        have bound := ih fits_none more
        have noneSeen : seen none = 0 := rfl
        rw [String.utf8Len, List.length_cons]
        omega
    · rw [step] at read
      cases read

/-- **Text is no longer than the bytes that it is read from.** -/
theorem utf8ByteSize_of_decode {bytes : Bytes} {s : String} (read : decode bytes = .ok s) :
    s.utf8ByteSize ≤ bytes.length := by
  rw [decode] at read
  cases found : charsFrom 0 (pieces bytes) with
  | error fault =>
    rw [found] at read
    cases read
  | ok cs =>
    rw [found] at read
    cases read
    have bound := utf8Len_le fits_none found
    have noneSeen : seen none = 0 := rfl
    rw [String.utf8ByteSize_ofList]
    omega

end Utf8

end MetastoreProbe
