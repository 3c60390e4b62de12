import MetastoreProbe.Proofs.Sasl.Frame

/-!
# Framing

A frame needs no mark where it ends, because its length is told before it.  So frames that are sent
one behind the other are received as they were sent, and what follows them is left
(`Frame.readMany_flatMap_bytes`).  What comes in is a frame just when a payload stands in front with
its length; everything else is refused in one of the three ways of `Frame.Refused`.

A sink with a limit takes the part of a write that it has room for.  `Sink.given` is the sink after
a write, whether or not it took all of it (`Sink.Fits`), so that what a limited sink holds can be
told of several writes at once.
-/

namespace MetastoreProbe

/-! ## Sinks with a limit -/

namespace Sink

/-- The sink has room for some bytes. -/
def Fits (s : Sink) (xs : Bytes) : Prop := ∀ room, s.room = some room → xs.length ≤ room

/-- The sink after some bytes were written: it takes those that it has room for. -/
def given (s : Sink) (xs : Bytes) : Sink :=
  match s.room with
  | none => { s with sent := s.sent ++ xs }
  | some room => { s with sent := s.sent ++ xs.take room, room := some (room - xs.length) }

variable {s : Sink} {xs ys : Bytes}

@[simp] theorem given_nil (s : Sink) : s.given [] = s := by
  obtain ⟨sent, room, shutdowns, shutdownFails⟩ := s
  cases room <;> simp [given]

theorem given_append (s : Sink) (xs ys : Bytes) : (s.given xs).given ys = s.given (xs ++ ys) := by
  unfold given
  cases s.room with
  | none => simp
  | some room => simp [List.take_append, Nat.sub_sub]

/-- There is room for some bytes and others behind them just when there is room for both in turn. -/
theorem fits_append_iff : s.Fits (xs ++ ys) ↔ s.Fits xs ∧ (s.given xs).Fits ys := by
  unfold Fits given
  cases s.room with
  | none => simp
  | some room =>
    simp only [Option.some.injEq, forall_eq', List.length_append]
    omega

/-- What there is room for is sent whole. -/
theorem sent_given (fits : s.Fits xs) : (s.given xs).sent = s.sent ++ xs := by
  unfold given
  cases limit : s.room with
  | none => rfl
  | some room => simp only [List.take_of_length_le (fits room limit)]

theorem write_of_fits (fits : s.Fits xs) : s.write xs = .ok () (s.given xs) := by
  unfold write given
  cases limit : s.room with
  | none => rfl
  | some room =>
    have enough := fits room limit
    simp only [enough, if_true, List.take_of_length_le enough]

/-- A write that there is no room for fails, and the part of it that fits is sent. -/
theorem write_of_not_fits (full : ¬ s.Fits xs) :
    s.write xs = .error (.io .writeLimit) (s.given xs) := by
  unfold Fits at full
  unfold write given
  cases limit : s.room with
  | none => simp [limit] at full
  | some room =>
    have less : ¬ xs.length ≤ room := by simpa [limit] using full
    have none_left : room - xs.length = 0 := by omega
    simp only [less, if_false, none_left]

end Sink

namespace Stream

variable {α : Type} {scan : Scan UInt8 Error α} {s s' : Stream}

/-! What is read comes off what comes in, and the sink stays as it is. -/

theorem read_eq_ok_iff {a : α} :
    read scan s = .ok a s' ↔ scan s.incoming = .ok a s'.incoming ∧ s'.sink = s.sink := by
  obtain ⟨incoming', sink'⟩ := s'
  unfold read
  cases scan s.incoming <;> simp [and_assoc, eq_comm]

theorem read_eq_error_iff {e : Error} :
    read scan s = .error e s' ↔ scan s.incoming = .error e s'.incoming ∧ s'.sink = s.sink := by
  obtain ⟨incoming', sink'⟩ := s'
  unfold read
  cases scan s.incoming <;> simp [and_assoc, eq_comm]

end Stream

namespace Frame

/-! ## What is no frame -/

/-- The input does not start with a frame: the error that a reader gives, and what it leaves. -/
inductive Refused : (input : Bytes) → Error → (rest : Bytes) → Prop
  /-- The input ends within the length. -/
  | cutLength {input : Bytes} (short : input.length < 4) : Refused input (.io .endOfFile) []
  /-- The length is above the limit, and nothing behind it is taken. -/
  | tooLong {header rest : Bytes} (four : header.length = 4)
    (above : maxFrameLength < BigEndian.decode header) :
    Refused (header ++ rest) (.metastore (.protocol (.frameTooLong (BigEndian.decode header)))) rest
  /-- The input ends within the payload. -/
  | cutPayload {header part : Bytes} (four : header.length = 4)
    (accepted : BigEndian.decode header ≤ maxFrameLength)
    (short : part.length < BigEndian.decode header) :
    Refused (header ++ part) (.io .earlyEnd) []

/-- **What is refused is just what does not start with a frame.** -/
theorem payload_eq_error_iff {input rest : Bytes} {e : Error} :
    payload input = .error e rest ↔ Refused input e rest := by
  constructor
  · intro failed
    rcases Scan.bind_eq_error_iff.1 failed with cut | ⟨header, behind, taken, body⟩
    · obtain ⟨short, rfl, rfl⟩ := Scan.take_eq_error_iff.1 cut
      exact .cutLength short
    · obtain ⟨four, rfl⟩ := Scan.take_eq_ok_iff.1 taken
      split at body
      next above =>
        cases body
        exact .tooLong four above
      next accepted =>
        obtain ⟨short, rfl, rfl⟩ := Scan.take_eq_error_iff.1 body
        exact .cutPayload four (Nat.not_lt.1 accepted) short
  · rintro (short | ⟨four, above⟩ | ⟨four, accepted, short⟩)
    · exact Scan.bind_apply_of_error (Scan.take_eq_error_iff.2 ⟨short, rfl, rfl⟩)
    · unfold payload
      rw [Scan.bind_apply_of_ok (Scan.take_append four _ _), if_pos above]
      rfl
    · unfold payload
      rw [Scan.bind_apply_of_ok (Scan.take_append four _ _), if_neg (Nat.not_lt.2 accepted)]
      exact Scan.take_eq_error_iff.2 ⟨short, rfl, rfl⟩

/-- A length with fewer bytes behind it than it tells holds no frame. -/
theorem not_bytes_prefix {header part : Bytes} (four : header.length = 4)
    (short : part.length < BigEndian.decode header) (p : Bytes) :
    ¬ bytes p <+: header ++ part := by
  rintro ⟨more, split⟩
  rw [bytes, List.append_assoc] at split
  obtain ⟨told, spelled⟩ := List.append_inj split (by rw [BigEndian.length_encode, four])
  -- Four bytes tell a length modulo what they can hold, which is never more than the length.
  have modulo : BigEndian.decode header = p.length % BigEndian.weight 4 := by
    rw [← told, BigEndian.decode_encode]
  have within : p.length ≤ part.length := by
    rw [← spelled, List.length_append]
    exact Nat.le_add_right _ _
  have := Nat.mod_le p.length (BigEndian.weight 4)
  omega

/-- What is taken of an input that does not start with a frame is not a frame either. -/
theorem Refused.exists_taken {input rest : Bytes} {e : Error} (refused : Refused input e rest) :
    ∃ taken, input = taken ++ rest ∧ ∀ p, ¬ bytes p <+: taken := by
  cases refused with
  | cutLength short =>
    refine ⟨input, (List.append_nil input).symm, fun p within => ?_⟩
    have enough := within.length_le
    rw [bytes, List.length_append, BigEndian.length_encode] at enough
    omega
  | @tooLong header _ four above =>
    have none_left : ([] : Bytes).length < BigEndian.decode header := Nat.zero_lt_of_lt above
    refine ⟨header, rfl, fun p within => ?_⟩
    exact not_bytes_prefix four none_left p (by rwa [List.append_nil])
  | @cutPayload header part four accepted short =>
    exact ⟨header ++ part, (List.append_nil _).symm, not_bytes_prefix four short⟩

theorem read_eq_ok_iff {s s' : Stream} {p : Bytes} :
    read s = .ok p s' ↔
      p.length ≤ maxFrameLength ∧ s.incoming = bytes p ++ s'.incoming ∧ s'.sink = s.sink := by
  rw [read, Stream.read_eq_ok_iff, payload_eq_ok_iff, and_assoc]

theorem read_eq_error_iff {s s' : Stream} {e : Error} :
    read s = .error e s' ↔ Refused s.incoming e s'.incoming ∧ s'.sink = s.sink := by
  rw [read, Stream.read_eq_error_iff, payload_eq_error_iff]

/-! ## Frames in a row -/

/-- Sends payloads, the first one first. -/
def writeMany : List Bytes → EStateM Error Stream Unit
  | [] => pure ()
  | p :: ps => do
    write p
    writeMany ps

/-- Receives a number of payloads, the first one first. -/
def readMany : Nat → EStateM Error Stream (List Bytes)
  | 0 => pure []
  | n + 1 => do
    let p ← read
    let ps ← readMany n
    return p :: ps

/-- A payload that the sink has room for is sent as one frame. -/
theorem write_of_fits {s : Stream} {p : Bytes} (fits : s.sink.Fits (bytes p)) :
    write p s = .ok () { s with sink := s.sink.given (bytes p) } := by
  obtain ⟨first, second⟩ := Sink.fits_append_iff.1 fits
  have length := Sink.write_of_fits first
  have whole := Sink.write_of_fits second
  simp only [write, Stream.send, bind, EStateM.bind, length, whole, Sink.given_append, bytes]

/-- **Payloads are sent as their frames in a row.** -/
theorem writeMany_of_fits {payloads : List Bytes} {s : Stream}
    (fits : s.sink.Fits (payloads.flatMap bytes)) :
    writeMany payloads s = .ok () { s with sink := s.sink.given (payloads.flatMap bytes) } := by
  induction payloads generalizing s with
  | nil =>
    rw [List.flatMap_nil, Sink.given_nil]
    rfl
  | cons p ps ih =>
    rw [List.flatMap_cons] at fits ⊢
    obtain ⟨first, others⟩ := Sink.fits_append_iff.1 fits
    have sent := write_of_fits first
    have more := ih (s := { s with sink := s.sink.given (bytes p) }) others
    simp only [writeMany, bind, EStateM.bind, sent, more, Sink.given_append]

/-- **Frames in a row are received as they are**, and what follows them is left. -/
theorem readMany_flatMap_bytes {payloads : List Bytes}
    (accepted : ∀ p ∈ payloads, p.length ≤ maxFrameLength) (tail : Bytes) (sink : Sink) :
    readMany payloads.length { incoming := payloads.flatMap bytes ++ tail, sink } =
      .ok payloads { incoming := tail, sink } := by
  induction payloads with
  | nil => rfl
  | cons p ps ih =>
    obtain ⟨short, others⟩ := List.forall_mem_cons.1 accepted
    have first : read { incoming := bytes p ++ (ps.flatMap bytes ++ tail), sink } =
        .ok p { incoming := ps.flatMap bytes ++ tail, sink } :=
      read_eq_ok_iff.2 ⟨short, rfl, rfl⟩
    rw [List.flatMap_cons, List.append_assoc, List.length_cons]
    simp only [readMany, bind, EStateM.bind, first, ih others, pure, EStateM.pure]

/-- **Framing is a self-delimiting code that loses nothing.**  Payloads of an accepted length can be
sent in a row where there is room for their frames, and whoever receives what was sent, followed by
anything, receives the same payloads in their order and is left with what follows.

The other way round, a payload is received just when it stands in front with its length in four
bytes and the length is accepted.  Everything else is refused: a length above the limit with nothing
behind it taken, and an input that is shorter because it ends. -/
theorem framing_lossless {payloads : List Bytes}
    (accepted : ∀ p ∈ payloads, p.length ≤ maxFrameLength) {s : Stream}
    (fits : s.sink.Fits (payloads.flatMap bytes)) :
    (∃ written sink, writeMany payloads s = .ok () { s with sink } ∧
        sink.sent = s.sink.sent ++ written ∧
        ∀ tail sink, readMany payloads.length { incoming := written ++ tail, sink } =
          .ok payloads { incoming := tail, sink }) ∧
      (∀ (r r' : Stream) (p : Bytes), read r = .ok p r' ↔
        p.length ≤ maxFrameLength ∧
          r.incoming = BigEndian.encode 4 p.length ++ p ++ r'.incoming ∧ r'.sink = r.sink) ∧
      ∀ (r r' : Stream) (e : Error), read r = .error e r' ↔
        Refused r.incoming e r'.incoming ∧ r'.sink = r.sink := by
  refine ⟨⟨payloads.flatMap bytes, _, writeMany_of_fits fits, Sink.sent_given fits, ?_⟩, ?_, ?_⟩
  · intro tail sink
    exact readMany_flatMap_bytes accepted tail sink
  · intro r r' p
    exact read_eq_ok_iff
  · intro r r' e
    exact read_eq_error_iff

/-- An empty payload and one that looks like a length, over a sink with just enough room for
both. -/
theorem framing_lossless_of_tight_sink :
    let payloads : List Bytes := [[], [0, 0, 0, 9]]
    let s : Stream := { incoming := [], sink := { sent := [5], room := some 12 } }
    (∀ p ∈ payloads, p.length ≤ maxFrameLength) ∧ s.sink.Fits (payloads.flatMap bytes) ∧
      ∃ written sink, writeMany payloads s = .ok () { s with sink } ∧
        sink.sent = [5] ++ written ∧
        readMany 2 { incoming := written ++ [0, 0], sink } =
          .ok payloads { incoming := [0, 0], sink } := by
  intro payloads s
  have accepted : ∀ p ∈ payloads, p.length ≤ maxFrameLength := by decide
  have fits : s.sink.Fits (payloads.flatMap bytes) := by
    intro room limited
    cases limited
    decide
  obtain ⟨⟨written, sink, sent, added, received⟩, -, -⟩ := framing_lossless accepted fits
  exact ⟨accepted, fits, written, sink, sent, added, received [0, 0] sink⟩

end Frame

end MetastoreProbe
