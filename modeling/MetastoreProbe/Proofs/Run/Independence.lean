import MetastoreProbe.Proofs.Run.Repetition

/-!
# Scenarios on a metastore in memory do not depend on one another

Each scenario has a table of its own, so what one of them leaves behind neither helps nor hinders
another.  Whether a run of the schema suite passes depends on the metastore that it starts from
(`Scenario.Fits`), and what it leaves behind on which scenarios are listed: in what order they are,
and how often each of them is listed, makes no difference to either.  That holds whatever failures
are laid down, since no run changes them.

That nothing else is left behind needs no second induction over the lists.  A run only grows the
metastore (`Scenario.Grows`), and a run that passes has stored the tables of all its scenarios; the
two together say what is found under every name (`Scenario.Grows.find?_eq_some_iff`).
-/

namespace MetastoreProbe

open Session InMemoryMetastore

/-- Two metastores hold the same: the same databases, and under each name the same table or none. -/
structure InMemoryMetastore.HoldsSame (m m' : InMemoryMetastore) : Prop where
  databases : ∀ name, name ∈ m.databases ↔ name ∈ m'.databases
  tables : ∀ database name, m.find? database name = m'.find? database name

variable {m m' m₁ m₂ : InMemoryMetastore} {database : String} {settings : ScenarioSettings}

namespace Scenario

variable {scenario other : Scenario} {scenarios scenarios' : List Scenario}

/-- **No two scenarios share a table.** -/
theorem tableName_inj : scenario.tableName = other.tableName ↔ scenario = other := by
  constructor
  · intro named
    cases scenario <;> cases other <;> first | rfl | exact absurd named (by decide)
  · rintro rfl
    rfl

/-! ## What runs that pass leave behind -/

/-- **Of a metastore that has grown by the tables of all scenarios, everything is known**: a table
that was there, or else that of a scenario that is listed. -/
theorem Grows.find?_eq_some_iff (grows : Grows database settings scenarios m m')
    (stored : ∀ scenario ∈ scenarios, ∃ table,
      m'.find? database scenario.tableName = some table)
    (database' name : String) (table : Table) :
    m'.find? database' name = some table ↔
      m.find? database' name = some table ∨
        m.find? database' name = none ∧ database' = database ∧ ∃ scenario ∈ scenarios,
          name = scenario.tableName ∧ table = scenario.table settings database := by
  constructor
  · intro found
    by_cases absent : m.find? database' name = none
    · obtain old | own := grows.added found
      · exact .inl old
      · exact .inr ⟨absent, own⟩
    · obtain ⟨old, was⟩ := Option.ne_none_iff_exists'.1 absent
      have same : old = table := Option.some.inj ((grows.kept was).symm.trans found)
      exact .inl (same ▸ was)
  · rintro (was | ⟨absent, rfl, scenario, listed, rfl, rfl⟩)
    · exact grows.kept was
    · -- Some table is found there, it is new, and no other scenario would have created it.
      obtain ⟨_, found⟩ := stored scenario listed
      obtain old | ⟨-, creator, -, named, rfl⟩ := grows.added found
      · rw [absent] at old
        cases old
      · rw [tableName_inj.1 named] at found ⊢
        exact found

/-- Two metastores that have grown from one by the tables of the same scenarios hold the same. -/
theorem Grows.holdsSame (same : ∀ scenario, scenario ∈ scenarios ↔ scenario ∈ scenarios')
    (grows : Grows database settings scenarios m m₁)
    (stored : ∀ scenario ∈ scenarios, ∃ table,
      m₁.find? database scenario.tableName = some table)
    (grows' : Grows database settings scenarios' m m₂)
    (stored' : ∀ scenario ∈ scenarios', ∃ table,
      m₂.find? database scenario.tableName = some table) : m₁.HoldsSame m₂ where
  databases name := by rw [grows.databases, grows'.databases]
  tables database' name := by
    apply Option.ext
    intro table
    rw [grows.find?_eq_some_iff stored, grows'.find?_eq_some_iff stored']
    simp only [same]

end Scenario

/-! ## Runs -/

namespace Run

/-- Where the database is refused, every run ends with that. -/
theorem exists_leads_perform_of_not_admits {run : Run} (refused : ¬ m.Admits run.database) :
    ∃ e, ∀ scenarios, Leads (Suite.perform client { run with suite := .schema scenarios }) m
      (.error e) m := by
  obtain ⟨e, answered⟩ := exists_leads_ensureDatabase_of_not_admits refused
  exact ⟨e, fun scenarios => answered.bind_error⟩

/-- **The order of scenarios and their repetition make no difference.**  From the same metastore,
two runs that differ only in how they list the same scenarios both pass or both fail, and if they
pass they leave the same databases and the same tables. -/
theorem perform_of_same_scenarios (run : Run) (scenarios scenarios' : List Scenario)
    (same : ∀ scenario, scenario ∈ scenarios ↔ scenario ∈ scenarios')
    (m : InMemoryMetastore) :
    ∃ result m₁ result' m₂,
      Leads (Suite.perform client { run with suite := .schema scenarios }) m result m₁ ∧
      Leads (Suite.perform client { run with suite := .schema scenarios' }) m result' m₂ ∧
      ((∃ report, result = .ok report) ↔ ∃ report, result' = .ok report) ∧
      ((∃ report, result = .ok report) → m₁.HoldsSame m₂) := by
  by_cases admitted : m.Admits run.database
  · obtain ⟨result, m₁, performed, -, grows, passes, passed⟩ :=
      exists_leads_perform_of_admits { run with suite := .schema scenarios } rfl admitted
    obtain ⟨result', m₂, performed', -, grows', passes', passed'⟩ :=
      exists_leads_perform_of_admits { run with suite := .schema scenarios' } rfl admitted
    have both : (∃ report, result = .ok report) ↔ ∃ report, result' = .ok report := by
      rw [passes, passes']
      simp only [same]
    refine ⟨result, m₁, result', m₂, performed, performed', both, fun given => ?_⟩
    obtain ⟨report', given'⟩ := both.1 given
    obtain ⟨report, given⟩ := given
    exact grows.holdsSame same (passed report given).1 grows' (passed' report' given').1
  · obtain ⟨e, performed⟩ := exists_leads_perform_of_not_admits admitted
    exact ⟨.error e, m, .error e, m, performed scenarios, performed scenarios', Iff.rfl, nofun⟩

/-- The tables are created in another order, and one scenario is listed twice. -/
theorem perform_of_same_scenarios_reordered :
    let m : InMemoryMetastore := { databases := ["e"], denied := ["e"] }
    let run (scenarios : List Scenario) : Run :=
      ⟨⟨"h", 9083, none⟩, "d", .schema scenarios, {}⟩
    (∀ scenario : Scenario, scenario ∈ [.s3, .local, .s3] ↔ scenario ∈ [.local, .s3]) ∧
      ∃ report m₁ report' m₂,
        Leads (Suite.perform client (run [.s3, .local, .s3])) m (.ok report) m₁ ∧
        Leads (Suite.perform client (run [.local, .s3])) m (.ok report') m₂ ∧
        m₁.tables.map (·.1.2) = ["s3_one_column_table", "one_column_table"] ∧
        m₂.tables.map (·.1.2) = ["one_column_table", "s3_one_column_table"] ∧
        m₁.HoldsSame m₂ := by
  intro m run
  have same : ∀ scenario : Scenario,
      scenario ∈ [.s3, .local, .s3] ↔ scenario ∈ [.local, .s3] := by
    intro scenario
    cases scenario <;> decide
  obtain ⟨result, m₁, result', m₂, first, second, both, left⟩ :=
    perform_of_same_scenarios (run []) [.s3, .local, .s3] [.local, .s3] same m
  have passed : ∃ report, result = .ok report := ⟨_, (first { client := m } rfl).1.symm⟩
  obtain ⟨report', passed'⟩ := both.1 passed
  obtain ⟨report, rfl⟩ := passed
  subst passed'
  refine ⟨same, report, m₁, report', m₂, first, second, ?_, ?_, left ⟨report, rfl⟩⟩
  · rw [← (first { client := m } rfl).2]
    rfl
  · rw [← (second { client := m } rfl).2]
    rfl

end Run

end MetastoreProbe
