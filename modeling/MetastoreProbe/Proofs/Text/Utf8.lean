import MetastoreProbe.Text.Utf8

/-!
# Text and its bytes

`Utf8.decode_encode` says that text is read back from its bytes.  The automaton sees a character in
its bytes whatever stands behind them (`Utf8.piecesFrom_encodeChar`): the lead byte says how many
bytes follow and which range the second one has, and each of those adds six bits.
-/

namespace MetastoreProbe

namespace Utf8

/-! ## Lead bytes -/

theorem start_one : ∀ n < 0x80, start (UInt8.ofNat n) = ([.char (Char.ofNat n)], none) := by
  intro n small
  have single : lead (UInt8.ofNat n) = .single := by
    have below : UInt8.ofNat n < 0x80 := by
      rw [UInt8.lt_iff_toNat_lt, UInt8.toNat_ofNat']
      exact Nat.lt_of_le_of_lt (Nat.mod_le n _) small
    rw [lead, if_pos below]
  have byte : (UInt8.ofNat n).toNat = n := by
    rw [UInt8.toNat_ofNat']
    exact Nat.mod_eq_of_lt (by omega)
  simp only [start, single, byte]

/-- The numbers below `2` would be overlong. -/
theorem start_two : ∀ n < 0x20, 2 ≤ n →
    start (UInt8.ofNat (0xC0 + n)) = ([], some ⟨n, 1, 0x80, 0xBF, 1⟩) := by
  decide

/-- The second byte is kept from spelling an overlong form after `0`, and a surrogate after
`13`. -/
theorem start_three : ∀ n < 0x10,
    start (UInt8.ofNat (0xE0 + n)) =
      ([], some ⟨n, 2, if n = 0 then 0xA0 else 0x80, if n = 13 then 0x9F else 0xBF, 1⟩) := by
  decide

/-- The second byte is kept from spelling an overlong form after `0`, and a number beyond the last
character after `4`. -/
theorem start_four : ∀ n < 5,
    start (UInt8.ofNat (0xF0 + n)) =
      ([], some ⟨n, 3, if n = 0 then 0x90 else 0x80, if n = 4 then 0x8F else 0xBF, 1⟩) := by
  decide

/-! ## Bytes that follow -/

/-- A byte in the range of a character under way adds six bits to it. -/
theorem advance_some {p : Partial} {n : Nat} (small : n < 0x40) (above : p.low.toNat ≤ 0x80 + n)
    (below : 0x80 + n ≤ p.high.toNat) :
    advance (some p) (UInt8.ofNat (0x80 + n)) =
      if p.missing ≤ 1 then ([.char (Char.ofNat (p.bits * 64 + n))], none)
      else ([], some ⟨p.bits * 64 + n, p.missing - 1, 0x80, 0xBF, p.seen + 1⟩) := by
  have byte : (UInt8.ofNat (0x80 + n)).toNat = 0x80 + n := by
    rw [UInt8.toNat_ofNat']
    exact Nat.mod_eq_of_lt (by omega)
  have within : p.low ≤ UInt8.ofNat (0x80 + n) ∧ UInt8.ofNat (0x80 + n) ≤ p.high := by
    rw [UInt8.le_iff_toNat_le, UInt8.le_iff_toNat_le, byte]
    exact ⟨above, below⟩
  have six : 0x80 + n - 0x80 = n := by omega
  simp only [advance, if_pos within, byte, six]

/-- The bytes that follow a lead byte end the character. -/
theorem piecesFrom_last {bits seen n : Nat} {low high : UInt8} (small : n < 0x40)
    (above : low.toNat ≤ 0x80 + n) (below : 0x80 + n ≤ high.toNat) (rest : Bytes) :
    piecesFrom (some ⟨bits, 1, low, high, seen⟩) (UInt8.ofNat (0x80 + n) :: rest) =
      .char (Char.ofNat (bits * 64 + n)) :: piecesFrom none rest := by
  rw [piecesFrom, advance_some small above below]
  rfl

/-- A byte that is not the last one leaves the rest of the character to come. -/
theorem piecesFrom_more {bits missing seen n : Nat} {low high : UInt8} (small : n < 0x40)
    (above : low.toNat ≤ 0x80 + n) (below : 0x80 + n ≤ high.toNat) (rest : Bytes) :
    piecesFrom (some ⟨bits, missing + 2, low, high, seen⟩) (UInt8.ofNat (0x80 + n) :: rest) =
      piecesFrom (some ⟨bits * 64 + n, missing + 1, 0x80, 0xBF, seen + 1⟩) rest := by
  have more : ¬ missing + 2 ≤ 1 := by omega
  rw [piecesFrom, advance_some small above below, if_neg more]
  rfl

/-! ## Characters -/

/-- A lead byte puts a character under way. -/
theorem piecesFrom_lead {b : UInt8} {p : Partial} (h : start b = ([], some p)) (rest : Bytes) :
    piecesFrom none (b :: rest) = piecesFrom (some p) rest := by
  rw [piecesFrom, advance, h]
  rfl

/-- Six bits lie in the range of a byte that may be any of those that follow. -/
theorem six_bits_in_range (n : Nat) :
    (0x80 : UInt8).toNat ≤ 0x80 + n % 64 ∧ 0x80 + n % 64 ≤ (0xBF : UInt8).toNat := by
  have small := Nat.mod_lt n (by decide : 0 < 64)
  have low : (0x80 : UInt8).toNat = 0x80 := rfl
  have high : (0xBF : UInt8).toNat = 0xBF := rfl
  omega

section Widths

variable {n : Nat} (rest : Bytes)

theorem piecesFrom_two_bytes (least : 0x80 ≤ n) (most : n < 0x800) :
    piecesFrom none
        (UInt8.ofNat (0xC0 + n / 64) :: UInt8.ofNat (0x80 + n % 64) :: rest) =
      .char (Char.ofNat n) :: piecesFrom none rest := by
  have bits : n / 64 * 64 + n % 64 = n := by omega
  have lead := start_two (n / 64) (by omega) (by omega)
  obtain ⟨low, high⟩ := six_bits_in_range n
  rw [piecesFrom_lead lead, piecesFrom_last (Nat.mod_lt n (by decide)) low high, bits]

theorem piecesFrom_three_bytes (least : 0x800 ≤ n) (most : n < 0x10000)
    (valid : n < 0xD800 ∨ 0xDFFF < n) :
    piecesFrom none
        (UInt8.ofNat (0xE0 + n / 4096) :: UInt8.ofNat (0x80 + n / 64 % 64) ::
          UInt8.ofNat (0x80 + n % 64) :: rest) =
      .char (Char.ofNat n) :: piecesFrom none rest := by
  have bits : (n / 4096 * 64 + n / 64 % 64) * 64 + n % 64 = n := by omega
  have lead := start_three (n / 4096) (by omega)
  obtain ⟨low, high⟩ := six_bits_in_range n
  -- The narrowed ranges of the second byte lose nothing: the number is not small and no surrogate.
  have above : (if n / 4096 = 0 then 0xA0 else 0x80 : UInt8).toNat ≤ 0x80 + n / 64 % 64 := by
    split
    · show 0xA0 ≤ _
      omega
    · exact (six_bits_in_range _).1
  have below : 0x80 + n / 64 % 64 ≤ (if n / 4096 = 13 then 0x9F else 0xBF : UInt8).toNat := by
    split
    · show _ ≤ 0x9F
      omega
    · exact (six_bits_in_range _).2
  rw [piecesFrom_lead lead, piecesFrom_more (Nat.mod_lt _ (by decide)) above below,
    piecesFrom_last (Nat.mod_lt n (by decide)) low high, bits]

theorem piecesFrom_four_bytes (least : 0x10000 ≤ n) (most : n < 0x110000) :
    piecesFrom none
        (UInt8.ofNat (0xF0 + n / 262144) :: UInt8.ofNat (0x80 + n / 4096 % 64) ::
          UInt8.ofNat (0x80 + n / 64 % 64) :: UInt8.ofNat (0x80 + n % 64) :: rest) =
      .char (Char.ofNat n) :: piecesFrom none rest := by
  have bits : ((n / 262144 * 64 + n / 4096 % 64) * 64 + n / 64 % 64) * 64 + n % 64 = n := by
    omega
  have lead := start_four (n / 262144) (by omega)
  obtain ⟨low, high⟩ := six_bits_in_range n
  obtain ⟨low', high'⟩ := six_bits_in_range (n / 64)
  have above : (if n / 262144 = 0 then 0x90 else 0x80 : UInt8).toNat ≤
      0x80 + n / 4096 % 64 := by
    split
    · show 0x90 ≤ _
      omega
    · exact (six_bits_in_range _).1
  have below : 0x80 + n / 4096 % 64 ≤
      (if n / 262144 = 4 then 0x8F else 0xBF : UInt8).toNat := by
    split
    · show _ ≤ 0x8F
      omega
    · exact (six_bits_in_range _).2
  rw [piecesFrom_lead lead, piecesFrom_more (Nat.mod_lt _ (by decide)) above below,
    piecesFrom_more (Nat.mod_lt _ (by decide)) low' high',
    piecesFrom_last (Nat.mod_lt n (by decide)) low high, bits]

end Widths

/-- **A character is seen in its bytes**, whatever stands behind them. -/
theorem piecesFrom_encodeChar (c : Char) (rest : Bytes) :
    piecesFrom none (encodeChar c ++ rest) = .char c :: piecesFrom none rest := by
  have valid : c.toNat < 0xD800 ∨ 0xDFFF < c.toNat ∧ c.toNat < 0x110000 := c.valid
  have number : Piece.char c = .char (Char.ofNat c.toNat) := by rw [Char.ofNat_toNat]
  rw [number, encodeChar]
  by_cases one : c.toNat < 0x80
  · rw [if_pos one, List.singleton_append, piecesFrom, advance, start_one _ one]
    rfl
  by_cases two : c.toNat < 0x800
  · rw [if_neg one, if_pos two]
    exact piecesFrom_two_bytes rest (by omega) two
  by_cases three : c.toNat < 0x10000
  · rw [if_neg one, if_neg two, if_pos three]
    exact piecesFrom_three_bytes rest (by omega) three (by omega)
  · rw [if_neg one, if_neg two, if_neg three]
    have most : c.toNat < 0x110000 := by omega
    exact piecesFrom_four_bytes rest (Nat.not_lt.1 three) most

/-! ## Text -/

theorem pieces_flatMap_encodeChar (cs : List Char) :
    pieces (cs.flatMap encodeChar) = cs.map Piece.char := by
  induction cs with
  | nil => rfl
  | cons c cs ih =>
    rw [List.flatMap_cons, pieces, piecesFrom_encodeChar, List.map_cons]
    exact congrArg _ ih

theorem charsFrom_map_char (cs : List Char) (index : Nat) :
    charsFrom index (cs.map Piece.char) = .ok cs := by
  induction cs generalizing index with
  | nil => rfl
  | cons c cs ih =>
    rw [List.map_cons, charsFrom, ih]
    rfl

/-- **Text is read back from its bytes.** -/
theorem decode_encode (s : String) : decode (encode s) = .ok s := by
  rw [decode, encode, pieces_flatMap_encodeChar, charsFrom_map_char]
  show Except.ok (String.ofList s.toList) = Except.ok s
  rw [String.ofList_toList]

end Utf8

end MetastoreProbe
