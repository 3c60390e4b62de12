import MetastoreProbe.Client

/-!
# A scripted client

A client whose answers are written down beforehand.  Each call but closing takes the next entry of
the script and answers with the part of it that the call needs.  Any behaviour that a check can
meet is that of some script, because a check sees no more than the answers in turn.
-/

namespace MetastoreProbe

/-- An entry of a script: the answers that it has, by what a call asks for. -/
structure ScriptEntry where
  /-- The call fails, whatever it asks for. -/
  error : Option Error := none
  database : Option CreateOutcome := none
  table : Option CreateOutcome := none
  schema : Option Schema := none
  deriving DecidableEq, Repr

/-- The state of a scripted client. -/
structure ScriptedClient where
  /-- The entries that are left. -/
  script : List ScriptEntry
  /-- The error with which closing fails, if it does. -/
  closeError : Option Error := none
  deriving DecidableEq, Repr

namespace ScriptedClient

/-- Takes the next entry and answers with the wanted part of it, which is called `part`. -/
def answer {α : Type} (part : String) (wanted : ScriptEntry → Option α) :
    EStateM Error ScriptedClient α := fun c =>
  match c.script with
  | [] => .error (.metastore (.transport (.other "script exhausted"))) c
  | entry :: script =>
    let c := { c with script }
    match entry.error, wanted entry with
    | some e, _ => .error e c
    | none, some a => .ok a c
    | none, none => .error (.metastore (.protocol (.other s!"script has no {part}"))) c

/-- Closes the client, with the error laid down for it. -/
def close : EStateM Error ScriptedClient Unit := fun c =>
  match c.closeError with
  | some e => .error e c
  | none => .ok () c

/-- The operations of the client. -/
def client : Client ScriptedClient where
  transport := "scripted"
  createDatabase _ := answer "database" ScriptEntry.database
  createTable _ := answer "table" ScriptEntry.table
  getSchema _ _ := answer "schema" ScriptEntry.schema
  close := close

end ScriptedClient

end MetastoreProbe
