import MetastoreProbe.Client
import MetastoreProbe.Run

/-!
# Checks and their reports

`Suite.perform` makes the checks of a run on an open client.  The schema suite provides the
database and then, scenario by scenario, provides the table, fetches its schema and compares it
with the expected one; the first error or difference ends the run and nothing is tried twice.  The
authorization suite tries to create the database and counts every error as the denial it expects.

`Run.perform` closes the client whatever came of the checks, and a failing close does not change
the verdict.  Only a client that broke down is not closed: nothing runs after a breakdown.
-/

namespace MetastoreProbe

/-- What the check of a scenario observed. -/
structure ScenarioReport where
  scenario : Scenario
  table : String
  outcome : CreateOutcome
  schema : Schema
  deriving DecidableEq, Repr

/-- What came of trying to create a database that is to be refused. -/
inductive AuthorizationOutcome
  /-- The call failed, with this text. -/
  | denied (reason : String)
  /-- The call went through. -/
  | allowed
  deriving DecidableEq, Repr

/-- What a run observed. -/
structure Report where
  database : Option CreateOutcome := none
  scenarios : List ScenarioReport := []
  authorization : Option AuthorizationOutcome := none
  deriving DecidableEq, Repr

/-! ## The schema suite -/

/-- Fails unless two schemas are equal; `label` names the scenario in the error. -/
def Schema.compare (label : String) (actual expected : Schema) : Except Error Unit :=
  if actual = expected then .ok ()
  else .error (.schemaMismatch label actual.text expected.text)

/-- The value of a check that makes no call. -/
def Session.ofExcept {σ α : Type} : Except Error α → EStateM Error (Session σ) α
  | .ok a => pure a
  | .error e => throw e

namespace Scenario

variable {σ : Type} (client : Client σ) (database : String) (settings : ScenarioSettings)

/-- Provides the table of a scenario and compares its schema with the expected one. -/
def check (scenario : Scenario) : EStateM Error (Session σ) ScenarioReport := do
  let table := scenario.table settings database
  let outcome ← client.ensureTable table
  let schema ← client.fetchSchema database table.name
  Session.ofExcept (Schema.compare scenario.label schema table.schema)
  return { scenario, table := table.name, outcome, schema }

/-- Checks scenarios in order, up to the first that fails. -/
def checkAll : List Scenario → EStateM Error (Session σ) (List ScenarioReport)
  | [] => pure []
  | scenario :: rest => do
    let report ← scenario.check client database settings
    let reports ← checkAll rest
    return report :: reports

end Scenario

/-! ## The authorization suite -/

/-- What the program announces before it tries to create a database that is to be refused. -/
def authorizationAttempt (database : String) : String :=
  s!"Trying to access '{database}' which is expected to fail due to " ++
    "'database_allow' authorization policy...!"

/-- Tries to create a database that is to be refused.  Every error is a denial, and its text is
printed; a breakdown of the client is none. -/
def tryDeniedDatabase {σ : Type} (client : Client σ) (database : String) :
    EStateM Error (Session σ) AuthorizationOutcome := fun s =>
  match client.ensureDatabase database s with
  | .ok _ s => .ok .allowed s
  | .error .breakdown s => .error .breakdown s
  | .error e s => .ok (.denied e.message) (s.printed (.tagged .denied e.message))

/-! ## Runs -/

/-- Makes the checks of a run on an open client. -/
def Suite.perform {σ : Type} (client : Client σ) (run : Run) :
    EStateM Error (Session σ) Report :=
  match run.suite with
  | .schema scenarios => do
    let database ← client.ensureDatabase run.database
    let reports ← Scenario.checkAll client run.database run.scenarios scenarios
    return { database := some database, scenarios := reports }
  | .authorization => do
    match ← tryDeniedDatabase client run.database with
    | .allowed => throw (.authorizationNotEnforced run.database)
    | .denied reason => return { authorization := some (.denied reason) }

/-- Makes the checks of a run and closes the client, whatever came of them; a breakdown of the
client ends everything. -/
def Run.perform {σ : Type} (client : Client σ) (run : Run) : EStateM Error (Session σ) Report :=
  fun s =>
    let close (s : Session σ) : Session σ :=
      match client.shutDown s with
      | .ok _ s | .error _ s => s
    match Suite.perform client run s with
    | .ok report s => .ok report (close s)
    | .error .breakdown s => .error .breakdown s
    | .error e s => .error e (close s)

end MetastoreProbe
