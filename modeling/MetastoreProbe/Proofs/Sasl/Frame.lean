import MetastoreProbe.Sasl.Stream

/-!
# Frames

`Frame.bytes` is a payload as it crosses the connection, with its length in front.  Sending a
payload puts these bytes behind what was sent before, and receiving takes them off the front of
what comes in, so that a reader is always at the start of a frame.
-/

namespace MetastoreProbe

namespace Frame

/-- A payload with its length in front. -/
def bytes (payload : Bytes) : Bytes :=
  BigEndian.encode 4 payload.length ++ payload

/-! ## Receiving -/

/-- Four bytes have room for the length of every payload that is accepted. -/
theorem decode_encode_length {n : Nat} (h : n ≤ maxFrameLength) :
    BigEndian.decode (BigEndian.encode 4 n) = n := by
  have fits : maxFrameLength < BigEndian.weight 4 := by decide
  rw [BigEndian.decode_encode]
  exact Nat.mod_eq_of_lt (Nat.lt_of_le_of_lt h fits)

/-- The length of a frame comes first. -/
theorem take_bytes_append (p rest : Bytes) :
    Scan.take 4 (Error.io .endOfFile) (bytes p ++ rest) =
      .ok (BigEndian.encode 4 p.length) (p ++ rest) := by
  rw [bytes, List.append_assoc]
  exact Scan.take_append (BigEndian.length_encode 4 _) _ _

/-- **A frame is received whole, and what follows it is left.** -/
theorem payload_bytes_append {p : Bytes} (h : p.length ≤ maxFrameLength) (rest : Bytes) :
    payload (bytes p ++ rest) = .ok p rest := by
  unfold payload
  rw [Scan.bind_apply_of_ok (take_bytes_append p rest), decode_encode_length h,
    if_neg (Nat.not_lt.2 h)]
  exact Scan.take_append rfl _ _

/-- A length that is too large is refused before anything behind it is read. -/
theorem payload_of_too_large {n : Nat} (tooLarge : maxFrameLength < n)
    (told : n < BigEndian.weight 4) (rest : Bytes) :
    payload (BigEndian.encode 4 n ++ rest) =
      .error (.metastore (.protocol (.frameTooLong n))) rest := by
  have length : BigEndian.decode (BigEndian.encode 4 n) = n := by
    rw [BigEndian.decode_encode]
    exact Nat.mod_eq_of_lt told
  unfold payload
  rw [Scan.bind_apply_of_ok (Scan.take_append (BigEndian.length_encode 4 _) _ _), length,
    if_pos tooLarge]
  rfl

/-- A frame that is too long is refused before any of its payload is read. -/
theorem payload_of_too_long {p : Bytes} (tooLong : maxFrameLength < p.length)
    (told : p.length < BigEndian.weight 4) (rest : Bytes) :
    payload (bytes p ++ rest) =
      .error (.metastore (.protocol (.frameTooLong p.length))) (p ++ rest) := by
  rw [bytes, List.append_assoc]
  exact payload_of_too_large tooLong told _

/-- **A payload is received just when it stands in front with its length**, and it is not too
long. -/
theorem payload_eq_ok_iff {input rest p : Bytes} :
    payload input = .ok p rest ↔ p.length ≤ maxFrameLength ∧ input = bytes p ++ rest := by
  constructor
  · intro h
    obtain ⟨header, afterHeader, taken, body⟩ := Scan.bind_eq_ok_iff.1 h
    obtain ⟨four, rfl⟩ := Scan.take_eq_ok_iff.1 taken
    split at body
    next => cases body
    next accepted =>
      obtain ⟨length, rfl⟩ := Scan.take_eq_ok_iff.1 body
      refine ⟨by omega, ?_⟩
      rw [bytes, length, BigEndian.encode_decode four, List.append_assoc]
  · rintro ⟨accepted, rfl⟩
    exact payload_bytes_append accepted rest

/-- Where nothing comes in any more, there is no frame. -/
theorem payload_nil : payload [] = .error (.io .endOfFile) [] := rfl

/-! ## Sending -/

/-- A sink without a limit takes whatever is written. -/
theorem write_of_unlimited {s : Sink} (unlimited : s.room = none) (xs : Bytes) :
    Sink.write xs s = .ok () { s with sent := s.sent ++ xs } := by
  simp only [Sink.write, unlimited]

/-- **A payload is sent as one frame**, where the other side takes everything. -/
theorem write_eq {s : Stream} (unlimited : s.sink.room = none) (p : Bytes) :
    write p s = .ok () { s with sink := { s.sink with sent := s.sink.sent ++ bytes p } } := by
  have length := write_of_unlimited unlimited (BigEndian.encode 4 p.length)
  have whole := write_of_unlimited
    (s := { s.sink with sent := s.sink.sent ++ BigEndian.encode 4 p.length }) unlimited p
  simp only [write, Stream.send, bind, EStateM.bind, length, whole, bytes, List.append_assoc]

end Frame

end MetastoreProbe
