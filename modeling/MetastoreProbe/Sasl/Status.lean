/-!
# Negotiation statuses

Each message of a SASL negotiation opens with one status byte.  `Status.ofByte?` and `Status.byte`
are inverse to each other, so no byte has two meanings and no status two bytes.
-/

namespace MetastoreProbe

namespace Sasl

/-- The meaning of a negotiation message. -/
inductive Status
  /-- The client opens with the name of its mechanism. -/
  | start
  /-- The exchange goes on. -/
  | ok
  /-- The server refuses what the client sent. -/
  | bad
  /-- The sender gives up. -/
  | error
  /-- The sender has finished. -/
  | complete
  deriving DecidableEq, Repr

namespace Status

/-- The byte that opens a message of this status. -/
def byte : Status → UInt8
  | start => 1
  | ok => 2
  | bad => 3
  | error => 4
  | complete => 5

/-- The status that a byte opens. -/
def ofByte? (b : UInt8) : Option Status :=
  if b = 1 then some start
  else if b = 2 then some ok
  else if b = 3 then some bad
  else if b = 4 then some error
  else if b = 5 then some complete
  else none

/-- The name of a status in messages. -/
def name : Status → String
  | start => "START"
  | ok => "OK"
  | bad => "BAD"
  | error => "ERROR"
  | complete => "COMPLETE"

@[simp] theorem ofByte?_byte (s : Status) : ofByte? s.byte = some s := by
  cases s <;> decide

theorem byte_of_ofByte? {b : UInt8} {s : Status} (h : ofByte? b = some s) : s.byte = b := by
  unfold ofByte? at h
  grind [byte]

end Status

end Sasl

end MetastoreProbe
