/-!
# Big-endian numbers

Every length, size and number that crosses the connection is written with its most significant
byte first.  `BigEndian.encode k n` is the `k`-byte numeral of `n` and `BigEndian.decode` the
number that a numeral denotes; the width is a parameter, because message headers use four bytes,
field ids two and type tags one.

`decode_encode` is the law the two obey: a numeral of `k` bytes holds a number modulo `weight k`,
so a length that needs more bytes than it is given wraps around instead of failing.  The other way
round nothing is lost (`encode_decode`): what was read is the numeral of its number.
-/

namespace MetastoreProbe

/-- A run of bytes, the first one first. -/
abbrev Bytes : Type := List UInt8

namespace BigEndian

/-- What a digit counts that has `k` digits after it. -/
def weight : Nat → Nat
  | 0 => 1
  | k + 1 => 256 * weight k

/-- The `k` low base-256 digits of `n`, most significant first. -/
def encode : Nat → Nat → Bytes
  | 0, _ => []
  | k + 1, n => UInt8.ofNat (n / weight k) :: encode k n

/-- The number whose base-256 digits, continuing `acc`, are the given bytes. -/
def decodeFrom (acc : Nat) : Bytes → Nat
  | [] => acc
  | b :: bs => decodeFrom (acc * 256 + b.toNat) bs

/-- The number whose base-256 digits are the given bytes. -/
def decode (bytes : Bytes) : Nat :=
  decodeFrom 0 bytes

@[simp] theorem length_encode (k n : Nat) : (encode k n).length = k := by
  induction k with
  | zero => rfl
  | succ k ih => simp [encode, ih]

theorem decodeFrom_encode (acc k n : Nat) :
    decodeFrom acc (encode k n) = acc * weight k + n % weight k := by
  induction k generalizing acc with
  | zero => simp [encode, decodeFrom, weight, Nat.mod_one]
  | succ k ih =>
    have byte : (UInt8.ofNat (n / weight k)).toNat = n / weight k % 256 := by simp
    have digits : n % (256 * weight k) = n % weight k + weight k * (n / weight k % 256) := by
      rw [Nat.mul_comm, Nat.mod_mul]
    rw [encode, decodeFrom, ih, byte, weight, digits, Nat.add_mul, Nat.mul_assoc,
      Nat.mul_comm (n / weight k % 256)]
    omega

/-- **A numeral of `k` bytes holds its number modulo `weight k`.** -/
@[simp] theorem decode_encode (k n : Nat) : decode (encode k n) = n % weight k := by
  simp [decode, decodeFrom_encode]

theorem weight_pos (k : Nat) : 0 < weight k := by
  induction k with
  | zero => decide
  | succ k ih => rw [weight]; omega

theorem decodeFrom_eq (acc : Nat) (bytes : Bytes) :
    decodeFrom acc bytes = acc * weight bytes.length + decode bytes := by
  induction bytes generalizing acc with
  | nil => simp [decode, decodeFrom, weight]
  | cons b bytes ih =>
    rw [decode, decodeFrom, decodeFrom, ih, ih (0 * 256 + b.toNat), List.length_cons, weight,
      Nat.add_mul, Nat.add_mul, Nat.mul_assoc]
    omega

/-- **A numeral of `k` bytes denotes a number below `weight k`.** -/
theorem decode_lt (bytes : Bytes) : decode bytes < weight bytes.length := by
  induction bytes with
  | nil => decide
  | cons b bytes ih =>
    have small : b.toNat + 1 ≤ 256 := b.toNat_lt
    have := Nat.mul_le_mul_right (weight bytes.length) small
    rw [decode, decodeFrom, decodeFrom_eq, List.length_cons, weight, Nat.zero_mul, Nat.zero_add]
    rw [Nat.add_mul] at this
    omega

theorem encode_decodeFrom (acc : Nat) (bytes : Bytes) :
    encode bytes.length (decodeFrom acc bytes) = bytes := by
  induction bytes generalizing acc with
  | nil => rfl
  | cons b bytes ih =>
    have digit : decodeFrom acc (b :: bytes) / weight bytes.length = acc * 256 + b.toNat := by
      rw [decodeFrom, decodeFrom_eq, Nat.mul_comm, Nat.mul_add_div (weight_pos _),
        Nat.div_eq_of_lt (decode_lt bytes), Nat.add_zero]
    have byte : UInt8.ofNat (acc * 256 + b.toNat) = b := by
      apply UInt8.toNat_inj.1
      simp
    rw [List.length_cons, encode, digit, byte]
    exact congrArg (b :: ·) (ih _)

/-- **Each run of bytes is the numeral of the number that it denotes.** -/
theorem encode_decode {k : Nat} {bytes : Bytes} (h : bytes.length = k) :
    encode k (decode bytes) = bytes := by
  subst h
  exact encode_decodeFrom 0 bytes

end BigEndian

end MetastoreProbe
