import MetastoreProbe.Bytes.BigEndian

/-!
# UTF-8

Text travels and is stored as UTF-8.  One automaton, `Utf8.advance`, cuts bytes into *pieces*: a
character, or a stretch that cannot be part of one.  The strict reading (`Utf8.decode`) refuses
the first such stretch and says how long it is and where it starts; the lenient one
(`Utf8.decodeLossy`) puts the replacement character in its place.  Both see the same pieces, so
they agree on what is malformed.

A stretch ends before the first byte that could not continue it: a wrong lead byte is a stretch
of its own, and a character broken off by another byte is a stretch of the bytes seen so far.
-/

namespace MetastoreProbe

namespace Utf8

/-- What a byte can be at the start of a character. -/
inductive Lead
  /-- A character by itself. -/
  | single
  /-- The first of `tails + 1` bytes; the second lies between `low` and `high`. -/
  | wide (tails : Nat) (low high : UInt8) (bits : Nat)
  /-- Never the start of a character. -/
  | never
  deriving DecidableEq, Repr

/-- The narrowed ranges after `E0`, `ED`, `F0` and `F4` keep out overlong forms, surrogates and
numbers beyond the last character. -/
def lead (b : UInt8) : Lead :=
  if b < 0x80 then .single
  else if b < 0xC2 then .never
  else if b < 0xE0 then .wide 1 0x80 0xBF (b.toNat - 0xC0)
  else if b = 0xE0 then .wide 2 0xA0 0xBF (b.toNat - 0xE0)
  else if b = 0xED then .wide 2 0x80 0x9F (b.toNat - 0xE0)
  else if b < 0xF0 then .wide 2 0x80 0xBF (b.toNat - 0xE0)
  else if b = 0xF0 then .wide 3 0x90 0xBF (b.toNat - 0xF0)
  else if b < 0xF4 then .wide 3 0x80 0xBF (b.toNat - 0xF0)
  else if b = 0xF4 then .wide 3 0x80 0x8F (b.toNat - 0xF0)
  else .never

/-- A character of which some bytes have been read. -/
structure Partial where
  /-- The bits read so far. -/
  bits : Nat
  /-- How many bytes are to come. -/
  missing : Nat
  /-- The range of the next byte. -/
  low : UInt8
  /-- The range of the next byte. -/
  high : UInt8
  /-- How many bytes have been read. -/
  seen : Nat
  deriving DecidableEq, Repr

/-- A stretch of the input. -/
inductive Piece
  | char (c : Char)
  /-- This many bytes that no byte after them could complete. -/
  | malformed (length : Nat)
  /-- The input ends inside a character. -/
  | cutOff
  deriving DecidableEq, Repr

/-- A byte where no character is under way. -/
def start (b : UInt8) : List Piece × Option Partial :=
  match lead b with
  | .single => ([.char (Char.ofNat b.toNat)], none)
  | .wide tails low high bits => ([], some ⟨bits, tails, low, high, 1⟩)
  | .never => ([.malformed 1], none)

/-- The pieces that a byte completes, and the character that is under way after it. -/
def advance (under : Option Partial) (b : UInt8) : List Piece × Option Partial :=
  match under with
  | none => start b
  | some p =>
    if p.low ≤ b ∧ b ≤ p.high then
      let bits := p.bits * 64 + (b.toNat - 0x80)
      if p.missing ≤ 1 then ([.char (Char.ofNat bits)], none)
      else ([], some ⟨bits, p.missing - 1, 0x80, 0xBF, p.seen + 1⟩)
    else
      let (pieces, after) := start b
      (.malformed p.seen :: pieces, after)

/-- The pieces of the input, a character being under way or not. -/
def piecesFrom (under : Option Partial) : Bytes → List Piece
  | [] => if under.isSome then [.cutOff] else []
  | b :: bytes =>
    let (pieces, after) := advance under b
    pieces ++ piecesFrom after bytes

/-- The pieces of the input. -/
def pieces (bytes : Bytes) : List Piece :=
  piecesFrom none bytes

/-! ## Reading -/

/-- Why bytes are not text. -/
inductive Fault
  /-- `length` bytes from `index` on are no part of a character. -/
  | malformed (length index : Nat)
  /-- The input ends inside the character that starts at `index`. -/
  | cutOff (index : Nat)
  deriving DecidableEq, Repr

/-- The wording of a fault. -/
def Fault.message : Fault → String
  | .malformed length index => s!"invalid utf-8 sequence of {length} bytes from index {index}"
  | .cutOff index => s!"incomplete utf-8 byte sequence from index {index}"

/-- The characters of the pieces up to the first that is none; `index` bytes stand before them. -/
def charsFrom (index : Nat) : List Piece → Except Fault (List Char)
  | [] => .ok []
  | .char c :: rest => (charsFrom (index + c.utf8Size) rest).map (c :: ·)
  | .malformed length :: _ => .error (.malformed length index)
  | .cutOff :: _ => .error (.cutOff index)

/-- The text that the bytes spell. -/
def decode (bytes : Bytes) : Except Fault String :=
  (charsFrom 0 (pieces bytes)).map String.ofList

/-- What stands for a piece in a lenient reading. -/
def Piece.shown : Piece → Char
  | .char c => c
  | .malformed _ | .cutOff => Char.ofNat 0xFFFD

/-- The text that the bytes spell, a replacement character standing for each stretch that spells
nothing. -/
def decodeLossy (bytes : Bytes) : String :=
  String.ofList ((pieces bytes).map Piece.shown)

/-! ## Writing -/

/-- The bytes of a character. -/
def encodeChar (c : Char) : Bytes :=
  let n := c.toNat
  if n < 0x80 then [UInt8.ofNat n]
  else if n < 0x800 then [UInt8.ofNat (0xC0 + n / 64), UInt8.ofNat (0x80 + n % 64)]
  else if n < 0x10000 then
    [UInt8.ofNat (0xE0 + n / 4096), UInt8.ofNat (0x80 + n / 64 % 64), UInt8.ofNat (0x80 + n % 64)]
  else
    [UInt8.ofNat (0xF0 + n / 262144), UInt8.ofNat (0x80 + n / 4096 % 64),
      UInt8.ofNat (0x80 + n / 64 % 64), UInt8.ofNat (0x80 + n % 64)]

/-- The bytes that spell a text. -/
def encode (s : String) : Bytes :=
  s.toList.flatMap encodeChar

end Utf8

end MetastoreProbe
