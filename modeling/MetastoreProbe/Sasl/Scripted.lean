import MetastoreProbe.Sasl.Negotiation

/-!
# Scripted mechanisms

A mechanism whose responses are written down beforehand: the first one opens the negotiation, each
further one answers a challenge.  Every mechanism that a negotiation can meet behaves like some
script, because a negotiation sees no more of it than its responses and whether it is done.
-/

namespace MetastoreProbe

namespace Sasl

/-- An entry of a script. -/
inductive ScriptStep
  /-- A response, and whether the mechanism is done with it. -/
  | respond (response : Bytes) (complete : Bool)
  /-- The mechanism fails. -/
  | fail (reason : String)
  deriving DecidableEq, Repr

/-- The state of a scripted mechanism. -/
structure ScriptedMechanism where
  /-- The steps that are left. -/
  steps : List ScriptStep
  complete : Bool := false
  deriving DecidableEq, Repr

namespace ScriptedMechanism

/-- Takes the next step of the script. -/
def next : EStateM Error ScriptedMechanism Bytes := fun s =>
  match s.steps with
  | [] => .error (.metastore (.sasl (.mechanism "mechanism script exhausted"))) s
  | .fail reason :: steps =>
    .error (.metastore (.sasl (.mechanism reason))) { s with steps }
  | .respond response complete :: steps => .ok response { steps, complete }

/-- The mechanism with the given name that follows its script. -/
def mechanism (name : String) : Mechanism ScriptedMechanism where
  name := name
  initialResponse := next
  evaluate _ := next
  isComplete s := s.complete

end ScriptedMechanism

end Sasl

end MetastoreProbe
