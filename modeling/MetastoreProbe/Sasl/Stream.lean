import MetastoreProbe.Bytes.BigEndian
import MetastoreProbe.Error
import MetastoreProbe.Scan

/-!
# Streams

A stream is one end of a connection, seen as values: `incoming` is everything that the other side
sends before it ends its side, and the `Sink` holds what was sent to it.  A sink can be limited to
a number of bytes; a write that crosses the limit leaves the part that fits and fails.

Incoming bytes are read by a `Scan` with `Error` as its faults, so what is left unread is known
after a failed read too.
-/

namespace MetastoreProbe

/-- The sending direction of a stream. -/
structure Sink where
  /-- The bytes sent, the first one first. -/
  sent : Bytes := []
  /-- How many more bytes are taken; without a number, any. -/
  room : Option Nat := none
  /-- How often a shutdown was tried. -/
  shutdowns : Nat := 0
  shutdownFails : Bool := false
  deriving DecidableEq, Repr

namespace Sink

/-- Sends bytes. -/
def write (bytes : Bytes) : EStateM Error Sink Unit := fun s =>
  match s.room with
  | none => .ok () { s with sent := s.sent ++ bytes }
  | some room =>
    if bytes.length ≤ room then
      .ok () { s with sent := s.sent ++ bytes, room := some (room - bytes.length) }
    else
      .error (.io .writeLimit) { s with sent := s.sent ++ bytes.take room, room := some 0 }

/-- Ends the sending direction. -/
def shutDown : EStateM Error Sink Unit := fun s =>
  let s := { s with shutdowns := s.shutdowns + 1 }
  if s.shutdownFails then .error (.io .shutdownFailed) s else .ok () s

end Sink

/-- One end of a connection. -/
structure Stream where
  /-- The bytes to be received, the first one first. -/
  incoming : Bytes
  sink : Sink := {}
  deriving DecidableEq, Repr

namespace Stream

variable {α : Type}

/-- Reads from what the other side sends. -/
def read (scan : Scan UInt8 Error α) : EStateM Error Stream α := fun s =>
  match scan s.incoming with
  | .ok a incoming => .ok a { s with incoming }
  | .error e incoming => .error e { s with incoming }

/-- Acts on the sending direction. -/
def send (action : EStateM Error Sink α) : EStateM Error Stream α := fun s =>
  match action s.sink with
  | .ok a sink => .ok a { s with sink }
  | .error e sink => .error e { s with sink }

end Stream

/-! ## Payloads and frames

A payload is preceded by its length in four bytes.  After the negotiation each message is one such
payload, called a frame. -/

namespace Frame

/-- A payload with its length.  A length beyond the limit is refused before any of the payload is
read. -/
def payload : Scan UInt8 Error Bytes := do
  let length := BigEndian.decode (← Scan.take 4 (.io .endOfFile))
  if maxFrameLength < length then
    throw (.metastore (.protocol (.frameTooLong length)))
  else
    Scan.take length (.io .earlyEnd)

/-- Receives one frame. -/
def read : EStateM Error Stream Bytes :=
  Stream.read payload

/-- Sends one frame: the length first, then the payload. -/
def write (bytes : Bytes) : EStateM Error Stream Unit :=
  Stream.send do
    Sink.write (BigEndian.encode 4 bytes.length)
    Sink.write bytes

end Frame

end MetastoreProbe
