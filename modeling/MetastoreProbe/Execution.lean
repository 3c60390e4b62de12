import MetastoreProbe.Network
import MetastoreProbe.Report

/-!
# Executing a run

`Run.execute` connects to the target of a run and makes its checks.  An `Execution` is all that
this shows: its result, what was dialled, the calls that were made and what was printed.
-/

namespace MetastoreProbe

/-- What executing a run shows. -/
structure Execution where
  /-- The addresses that were dialled, the first one first. -/
  dialled : List String
  /-- The calls made, the first one first. -/
  exchanges : List Exchange := []
  /-- The entries printed, the first one first. -/
  console : List Console.Entry := []
  result : Except Error Report

namespace Execution

variable {σ : Type}

/-- What the checks on an open client showed. -/
def ofChecks (dialled : List String) : EStateM.Result Error (Session σ) Report → Execution
  | .ok report s => ⟨dialled, s.exchanges, s.console, .ok report⟩
  | .error e s => ⟨dialled, s.exchanges, s.console, .error e⟩

end Execution

/-- Connects to the target of a run and makes its checks; tables carry the time `now`. -/
def Run.execute {σ : Type} (network : Network σ) (now : Int32) (run : Run) : Execution :=
  let attempt := network.connect run.target
  match attempt.result with
  | .error e => { dialled := attempt.dialled, result := .error e }
  | .ok client =>
    .ofChecks attempt.dialled (run.perform (PlainClient.client network.link now) { client })

end MetastoreProbe
