import MetastoreProbe.Client.Scripted
import MetastoreProbe.Proofs.Run.Failures
import MetastoreProbe.Proofs.Schema.Shown

/-!
# Mismatches that are reported

A check compares schemas, and what it reports of a mismatch are their texts.  The texts escape
nothing, but the expected schema has a single column without quotes in its parts, so that no other
schema has its text: whoever reads the report sees a difference (`Scenario.mismatch_visible`).

This is about schemas that a client returned.  A client of one's own might fail a call with a
mismatch that it made up; the clients over a connection fail only in their calls and never do.
-/

namespace MetastoreProbe

/-- **No other schema is shown like the expected one.** -/
theorem Schema.text_eq_oneColumn_iff {schema : Schema} :
    schema.text = Schema.oneColumn.text ↔ schema = Schema.oneColumn :=
  text_eq_singleton_iff (by decide)

/-- If the error is a mismatch of schemas, it shows two texts that differ. -/
def Error.ShowsMismatch : Error → Prop
  | .schemaMismatch _ actual expected => actual ≠ expected
  | _ => True

theorem Error.OfCall.showsMismatch {e : Error} (h : e.OfCall) : e.ShowsMismatch := by
  cases e with
  | schemaMismatch => exact h.elim
  | _ => trivial

/-- A mismatch that the check of a scenario on the client ends with can be seen. -/
def Client.ShowsMismatches {σ : Type} (client : Client σ) : Prop :=
  ∀ (database : String) (settings : ScenarioSettings) (scenario : Scenario),
    FailsOnly Error.ShowsMismatch (scenario.check client database settings)

namespace Scenario

variable {σ : Type}

/-- A client that fails only in its calls leaves mismatches to the check. -/
theorem showsMismatches_of_callsFailOnly {client : Client σ}
    (h : client.CallsFailOnly Error.OfCall) : client.ShowsMismatches := by
  intro database settings scenario
  have provide := (h.createTable (scenario.table settings database)).mono
    fun _ => Error.OfCall.showsMismatch
  have fetch := (h.getSchema database scenario.tableName).mono fun _ => Error.OfCall.showsMismatch
  exact failsOnly_check provide fetch fun schema different =>
    mt Schema.text_eq_oneColumn_iff.1 different

/-- The check of a scenario goes by the schema that the client returned, and what it reports of a
schema that differs is a text that differs. -/
theorem check_of_fetched (client : Client σ) (database : String) (settings : ScenarioSettings)
    (scenario : Scenario) (s : Session σ) {schema : Schema}
    (fetched : (Session.leftBy (scenario.check client database settings s)).exchanges.getLast? =
      some (.getSchema database scenario.tableName (.ok schema))) :
    (schema = Schema.oneColumn ∧
        ∃ report, Session.resultOf (scenario.check client database settings s) = .ok report) ∨
      (schema.text ≠ Schema.oneColumn.text ∧
        Session.resultOf (scenario.check client database settings s) =
          .error (.schemaMismatch scenario.label schema.text Schema.oneColumn.text)) := by
  obtain ⟨xs, result, course, made⟩ := scenario.exists_made_check client database settings s
  rw [made.exchanges_eq] at fetched
  rw [made.resultOf_eq]
  cases course with
  | refused e => simp at fetched
  | withheld outcome e => simp at fetched
  | differed outcome schema' different =>
    have same : schema' = schema := by simpa using fetched
    subst same
    exact .inr ⟨mt Schema.text_eq_oneColumn_iff.1 different, rfl⟩
  | passed outcome =>
    have same : Schema.oneColumn = schema := by simpa using fetched
    exact .inl ⟨same.symm, _, rfl⟩

/-- **A mismatch that is reported can be seen.**

A schema has the text of the expected one only if it is that one.  So whatever schema a client
returns, the check of the scenario passes with the expected one, and with any other it fails and
reports two texts that differ.  And over a plain connection as well as over frames, there are no
mismatches but these. -/
theorem mismatch_visible (database : String) (settings : ScenarioSettings) (scenario : Scenario) :
    (∀ schema : Schema, schema.text = Schema.oneColumn.text ↔ schema = Schema.oneColumn) ∧
    (∀ {σ : Type} (client : Client σ) (s : Session σ) (schema : Schema),
      (Session.leftBy (scenario.check client database settings s)).exchanges.getLast? =
          some (.getSchema database scenario.tableName (.ok schema)) →
        (schema = Schema.oneColumn ∧
            ∃ report, Session.resultOf (scenario.check client database settings s) = .ok report) ∨
          (schema.text ≠ Schema.oneColumn.text ∧
            Session.resultOf (scenario.check client database settings s) =
              .error (.schemaMismatch scenario.label schema.text Schema.oneColumn.text))) ∧
    (∀ {σ : Type} (link : PlainLink σ) (now : Int32),
      (PlainClient.client link now).ShowsMismatches) ∧
    ∀ now : Int32, (SaslClient.client now).ShowsMismatches := by
  refine ⟨fun _ => Schema.text_eq_oneColumn_iff, ?_, fun link now => ?_, fun now => ?_⟩
  · intro σ client s schema fetched
    exact check_of_fetched client database settings scenario s fetched
  · exact showsMismatches_of_callsFailOnly
      ((PlainClient.callsFailOnly link now).mono fun _ => (·.ofCall))
  · exact showsMismatches_of_callsFailOnly (SaslClient.callsFailOnly now)

/-- The name of this column brings the expected type and comment along, and still the whole is shown
differently. -/
theorem mismatch_visible_of_crafted_name :
    let schema : Schema := ⟨[⟨"id', type='string', comment='col comment", "", ""⟩]⟩
    let c : ScriptedClient := { script := [{ table := some .created }, { schema := some schema }] }
    Session.resultOf (Scenario.local.check ScriptedClient.client "d" {} { client := c }) =
        .error (.schemaMismatch "local" schema.text Schema.oneColumn.text) ∧
      schema.text ≠ Schema.oneColumn.text := by
  intro schema c
  rcases (mismatch_visible "d" {} .local).2.1 ScriptedClient.client { client := c } schema rfl with
    ⟨same, -⟩ | ⟨different, failed⟩
  · exact absurd same (by decide)
  · exact ⟨failed, different⟩

end Scenario

end MetastoreProbe
