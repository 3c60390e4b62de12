import MetastoreProbe.Scan
import MetastoreProbe.Toml.Value

/-!
# Numbers and points in time in TOML

Digits can be grouped by underscores, each between two digits.  Whole numbers must fit into 64
bits with a sign.  A number with a fraction or an exponent is kept exactly; a positive one that is
too large for a double is refused, while a negative one counts as minus infinity.
-/

namespace MetastoreProbe

namespace Toml

/-- Reads from the characters of a document. -/
abbrev Grammar (α : Type) : Type := Scan Char Fault α

namespace Grammar

/-- A character of the given class. -/
def one (what : String) (p : Char → Bool) : Grammar Char
  | [] => .error (.expected what) []
  | c :: rest => if p c then .ok c rest else .error (.expected what) (c :: rest)

/-- The given character. -/
def char (c : Char) : Grammar Char := one (String.singleton c) (· == c)

/-- The given characters. -/
def word (w : String) : Grammar Unit := fun input =>
  if w.toList.isPrefixOf input then .ok () (input.drop w.length)
  else .error (.expected w) input

/-- At least one character of the given class. -/
def some1 (what : String) (p : Char → Bool) : Grammar (List Char) := do
  let first ← one what p
  return first :: (← Scan.takeWhile p)

/-- The grammar as often as it applies. -/
def many {α : Type} (p : Grammar α) : Grammar (List α) :=
  Scan.many (.expected "more input") p

/-! ## Digits -/

/-- Whether a character is a digit of a base up to sixteen. -/
def isDigitOf (base : Nat) (c : Char) : Bool :=
  match base with
  | 2 => c == '0' || c == '1'
  | 8 => '0' ≤ c && c ≤ '7'
  | 10 => c.isDigit
  | _ => c.isDigit || ('a' ≤ c && c ≤ 'f') || ('A' ≤ c && c ≤ 'F')

/-- The value of a digit. -/
def digitValue (c : Char) : Nat :=
  if c.isDigit then c.toNat - '0'.toNat
  else if 'a' ≤ c then c.toNat - 'a'.toNat + 10
  else c.toNat - 'A'.toNat + 10

/-- The number that digits spell. -/
def ofDigits (base : Nat) (digits : List Char) : Nat :=
  digits.foldl (fun n c => n * base + digitValue c) 0

/-- The digits after a first one, underscores left out. -/
def moreDigits (base : Nat) : Grammar (List Char) :=
  many (Scan.orElse (one "digit" (isDigitOf base)) (do
    let _ ← char '_'
    one "digit" (isDigitOf base)))

/-- At least one digit, underscores left out. -/
def digits (base : Nat) : Grammar (List Char) := do
  let first ← one "digit" (isDigitOf base)
  return first :: (← moreDigits base)

/-- A sign: whether it is the negative one. -/
def sign : Grammar Bool := do
  match ← Scan.optional (one "sign" fun c => c == '+' || c == '-') with
  | some c => return c == '-'
  | none => return false

/-- The digits of a whole number, which has no zero in front. -/
def wholeDigits : Grammar (List Char) :=
  Scan.orElse
    (do
      let first ← one "digit" fun c => '1' ≤ c && c ≤ '9'
      return first :: (← moreDigits 10))
    (do return [← char '0'])

/-! ## Numbers -/

/-- A number if it fits into 64 bits with a sign. -/
def inRange (n : Int) : Grammar Int :=
  if -9223372036854775808 ≤ n ∧ n < 9223372036854775808 then pure n
  else throw (.outOfRange "integer")

/-- A whole number with a base in front. -/
def basedInteger (mark : String) (base : Nat) : Grammar Int := do
  word mark
  inRange (ofDigits base (← digits base))

/-- A whole number. -/
def integer : Grammar Int :=
  Scan.orElse (basedInteger "0x" 16) <|
  Scan.orElse (basedInteger "0o" 8) <|
  Scan.orElse (basedInteger "0b" 2) (do
    let negative ← sign
    let n := ofDigits 10 (← wholeDigits)
    inRange (if negative then -n else n))

/-- The exponent of a number. -/
def exponent : Grammar Int := do
  let _ ← one "exponent" fun c => c == 'e' || c == 'E'
  let negative ← sign
  let n := ofDigits 10 (← digits 10)
  return if negative then -n else n

/-- The fraction of a number: its digits. -/
def fraction : Grammar (List Char) := do
  let _ ← char '.'
  digits 10

/-- Whether `digits * 10 ^ exponent` is nearer to infinity than to a double, `digits` having
`count` decimal places.  The bounds on the magnitude keep the powers small. -/
def exceedsDouble (digits count : Nat) (exponent : Int) : Bool :=
  let limit := (1 <<< 1024) - (1 <<< 970)
  let magnitude := exponent + count
  if digits = 0 ∨ magnitude ≤ 308 then false
  else if 310 ≤ magnitude then true
  else if 0 ≤ exponent then limit ≤ digits * Nat.pow 10 exponent.toNat
  else limit * Nat.pow 10 (-exponent).toNat ≤ digits

/-- A finite number with a fraction, an exponent, or both. -/
def finite : Grammar Real := do
  let negative ← sign
  let whole ← wholeDigits
  let (fraction, exponent) ←
    Scan.orElse
      (do return ([], ← exponent))
      (do return (← fraction, (← Scan.optional exponent).getD 0))
  let spelled := (whole ++ fraction).dropWhile (· == '0')
  let value := ofDigits 10 spelled
  let power := exponent - fraction.length
  if exceedsDouble value spelled.length power then
    if negative then return .infinite true else throw (.outOfRange "number")
  else
    return .finite negative value power

/-- A number that is no whole number. -/
def real : Grammar Real :=
  Scan.orElse finite (do
    let negative ← sign
    Scan.orElse
      (do
        word "inf"
        return .infinite negative)
      (do
        word "nan"
        return .notANumber))

/-! ## Points in time -/

/-- A number of exactly `count` digits between two bounds. -/
def bounded (what : String) (count low high : Nat) : Grammar Nat := do
  let digits ← Scan.collect count (one "digit" Char.isDigit)
  let n := ofDigits 10 digits
  if low ≤ n ∧ n ≤ high then return n else throw (.outOfRange what)

/-- The number of days of a month. -/
def daysIn (year month : Nat) : Nat :=
  if month = 2 then
    if year % 4 = 0 ∧ (year % 100 ≠ 0 ∨ year % 400 = 0) then 29 else 28
  else if month = 4 ∨ month = 6 ∨ month = 9 ∨ month = 11 then 30
  else 31

/-- A day. -/
def date : Grammar Date := do
  let year ← bounded "year" 4 0 9999
  let _ ← char '-'
  let month ← bounded "month" 2 1 12
  let _ ← char '-'
  let day ← bounded "day" 2 1 (daysIn year month)
  return { year, month, day }

/-- The digits of a fraction of a second, in nanoseconds; what is finer is dropped. -/
def nanoseconds (digits : List Char) : Nat :=
  let kept := digits.take 9
  ofDigits 10 kept * Nat.pow 10 (9 - kept.length)

/-- A time of the day. -/
def time : Grammar Time := do
  let hour ← bounded "hour" 2 0 23
  let _ ← char ':'
  let minute ← bounded "minute" 2 0 59
  let _ ← char ':'
  let second ← bounded "second" 2 0 60
  let fraction ← Scan.optional (do
    let _ ← char '.'
    some1 "digit" Char.isDigit)
  return { hour, minute, second, nanosecond := nanoseconds (fraction.getD []) }

/-- An offset from universal time, in minutes. -/
def offset : Grammar Int :=
  Scan.orElse
    (do
      let _ ← one "offset" fun c => c == 'Z' || c == 'z'
      return 0)
    (do
      let c ← one "offset" fun c => c == '+' || c == '-'
      let hour ← bounded "hour" 2 0 23
      let _ ← char ':'
      let minute ← bounded "minute" 2 0 59
      let minutes : Int := hour * 60 + minute
      return if c == '-' then -minutes else minutes)

/-- A day with or without a time, or a time alone. -/
def dateTime : Grammar DateTime :=
  Scan.orElse
    (do
      let date ← date
      let rest ← Scan.optional (do
        let _ ← one "time" fun c => c == 'T' || c == 't' || c == ' '
        return (← time, ← Scan.optional offset))
      match rest with
      | some (time, offset) => return { date, time, offset }
      | none => return { date })
    (do return { time := some (← time) })

end Grammar

end Toml

end MetastoreProbe
