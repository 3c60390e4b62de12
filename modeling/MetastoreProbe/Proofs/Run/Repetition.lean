import MetastoreProbe.Proofs.Client.InMemory
import MetastoreProbe.Report

/-!
# Runs on a metastore in memory, made again

A run of the schema suite creates what is missing and leaves alone what is there.  So a run that
passed has settled the matter: every later run for the same database and the same scenarios passes,
reports that everything existed, and changes nothing, whatever its settings are.

`Scenario.Provided` is the state of affairs that carries this.  A run that passes ends in it
(`Run.exists_leads_perform`), and a run that starts from it stays there
(`Run.leads_perform_of_provided`).  A table that a scenario finds in place counts as well as one
that it created itself, so a scenario that is listed twice is no different from a run made twice.

What scenarios create and which of them pass (`Scenario.Fits`) is said of any metastore, whatever
failures are laid down for it.
-/

namespace MetastoreProbe

open Session InMemoryMetastore

/-- What a scenario reports where its table existed already. -/
def ScenarioReport.again (r : ScenarioReport) : ScenarioReport :=
  { r with outcome := .alreadyExisted }

/-- The same report, but the database and every table existed already. -/
def Report.again (r : Report) : Report :=
  { r with
    database := some .alreadyExisted
    scenarios := r.scenarios.map ScenarioReport.again }

variable {m m' m'' : InMemoryMetastore} {database : String} {settings : ScenarioSettings}

theorem exists_map_eq_ok_iff {α β : Type} {result : Except Error α} (f : α → β) :
    (∃ b, result.map f = .ok b) ↔ ∃ a, result = .ok a := by
  cases result with
  | ok a => exact iff_of_true ⟨_, rfl⟩ ⟨a, rfl⟩
  | error e => exact iff_of_false nofun nofun

theorem leads_ofExcept {α : Type} (result : Except Error α) (m : InMemoryMetastore) :
    Leads (Session.ofExcept result) m result m := by
  cases result with
  | ok a => exact leads_pure a m
  | error e => exact leads_throw e m

/-! ## What scenarios change -/

/-- What the scenarios may make of the metastore: everything is there that was there before, and
what is new is the database or the table of a scenario under its name. -/
structure Scenario.Grows (database : String) (settings : ScenarioSettings)
    (scenarios : List Scenario) (m m' : InMemoryMetastore) : Prop where
  databases : ∀ name, name ∈ m'.databases ↔ name ∈ m.databases ∨ name = database
  kept : ∀ {database' name table}, m.find? database' name = some table →
    m'.find? database' name = some table
  added : ∀ {database' name table}, m'.find? database' name = some table →
    m.find? database' name = some table ∨
      database' = database ∧ ∃ scenario ∈ scenarios,
        name = scenario.tableName ∧ table = scenario.table settings database

/-- The database is there, and for each scenario a table under its name with the schema that the
scenario expects. -/
structure Scenario.Provided (database : String) (scenarios : List Scenario)
    (m : InMemoryMetastore) : Prop where
  present : database ∈ m.databases
  stored : ∀ scenario ∈ scenarios, ∃ table,
    m.find? database scenario.tableName = some table ∧ table.schema = Schema.oneColumn

/-- Nothing stands in the way of the scenario: the schema that is reported for the table under its
name, or for its own where there is none, is the one that it expects. -/
def Scenario.Fits (database : String) (m : InMemoryMetastore) (scenario : Scenario) : Prop :=
  m.reported ((m.find? database scenario.tableName).elim Schema.oneColumn Table.schema) =
    Schema.oneColumn

namespace Scenario

variable {scenario : Scenario} {scenarios : List Scenario}

theorem Grows.refl (settings : ScenarioSettings) (present : database ∈ m.databases)
    (scenarios : List Scenario) : Grows database settings scenarios m m where
  databases name := by
    refine ⟨.inl, ?_⟩
    rintro (old | rfl)
    · exact old
    · exact present
  kept := id
  added := .inl

/-- Scenarios behind one another add up. -/
theorem Grows.cons (h : Grows database settings [scenario] m m')
    (h' : Grows database settings scenarios m' m'') :
    Grows database settings (scenario :: scenarios) m m'' where
  databases name := by
    rw [h'.databases, h.databases]
    simp
  kept found := h'.kept (h.kept found)
  added found := by
    rcases h'.added found with found | ⟨rfl, other, listed, named⟩
    · rcases h.added found with found | ⟨rfl, other, listed, named⟩
      · exact .inl found
      · cases List.mem_singleton.1 listed
        exact .inr ⟨rfl, scenario, List.mem_cons_self, named⟩
    · exact .inr ⟨rfl, other, List.mem_cons_of_mem _ listed, named⟩

/-- The database may have been provided before the scenarios. -/
theorem Grows.behind_database
    (databases : ∀ name, name ∈ m'.databases ↔ name ∈ m.databases ∨ name = database)
    (tables : m'.tables = m.tables) (h : Grows database settings scenarios m' m'') :
    Grows database settings scenarios m m'' where
  databases name := by
    rw [h.databases, databases, or_assoc, or_self]
  kept found := h.kept (by rwa [find?, tables])
  added found := by
    have added := h.added found
    rwa [find?, tables] at added

/-- The table of a scenario is all that is new where it is created. -/
theorem grows_withTable (present : database ∈ m.databases) :
    Grows database settings [scenario] m (m.withTable (scenario.table settings database)) where
  databases := (Grows.refl settings present []).databases
  kept found := by
    rw [find?_withTable, found]
    rfl
  added {database' name table} found := by
    rw [find?_withTable, Option.or_eq_some_iff] at found
    rcases found with found | ⟨-, found⟩
    · exact .inl found
    · split at found
      next own =>
        cases found
        exact .inr ⟨own.1, scenario, List.mem_singleton_self _, own.2, rfl⟩
      next => cases found

/-- The table of a scenario is found where none was found before. -/
theorem find?_of_withTable (settings : ScenarioSettings)
    (absent : m.find? database scenario.tableName = none) :
    (m.withTable (scenario.table settings database)).find? database scenario.tableName =
      some (scenario.table settings database) := by
  rw [find?_withTable, absent]
  exact if_pos ⟨rfl, rfl⟩

theorem fits_iff_of_some {table : Table}
    (found : m.find? database scenario.tableName = some table) :
    scenario.Fits database m ↔ m.reported table.schema = Schema.oneColumn := by
  rw [Fits, found, Option.elim_some]

/-- What scenarios create stands in the way of none that nothing stood in the way of, and clears
none. -/
theorem Grows.fits_iff (grows : Grows database settings scenarios m m') (fails : m.FailsAs m')
    (other : Scenario) : other.Fits database m' ↔ other.Fits database m := by
  unfold Fits
  rw [fails.reported_eq]
  cases was : m.find? database other.tableName with
  | some table => rw [grows.kept was]
  | none =>
    cases found : m'.find? database other.tableName with
    | none => rfl
    | some table =>
      obtain old | ⟨-, creator, -, -, rfl⟩ := grows.added found
      · rw [was] at old
        cases old
      · rw [Option.elim_some, Option.elim_none, schema_table]

/-! ## What scenarios come to -/

/-- What a scenario reports where its table existed already. -/
def repeated (scenario : Scenario) : ScenarioReport :=
  ⟨scenario, scenario.tableName, .alreadyExisted, Schema.oneColumn⟩

/-- A scenario whose table is there, once it has been provided, comes to what the comparison of its
schema comes to. -/
theorem leads_check {outcome : CreateOutcome} {table : Table}
    (provided : Leads (client.ensureTable (scenario.table settings database)) m (.ok outcome) m')
    (found : m'.find? database scenario.tableName = some table) :
    Leads (scenario.check client database settings) m
      ((Schema.compare scenario.label (m'.reported table.schema) Schema.oneColumn).map fun _ =>
        ⟨scenario, scenario.tableName, outcome, m'.reported table.schema⟩) m' :=
  provided.bind_ok ((leads_fetchSchema_of_some found).bind_ok ((leads_ofExcept _ m').bind_pure _))

/-- The comparison passes a scenario just when the schema is the one that it expects. -/
theorem exists_report_iff (scenario : Scenario) (outcome : CreateOutcome) (schema : Schema) :
    let result : Except Error ScenarioReport :=
      (Schema.compare scenario.label schema Schema.oneColumn).map fun _ =>
        ⟨scenario, scenario.tableName, outcome, schema⟩
    ((∃ report, result = .ok report) ↔ schema = Schema.oneColumn) ∧
      ∀ report, result = .ok report → report.again = scenario.repeated := by
  by_cases same : schema = Schema.oneColumn
  · rw [Schema.compare, if_pos same, same]
    refine ⟨iff_of_true ⟨_, rfl⟩ rfl, ?_⟩
    rintro report ⟨⟩
    rfl
  · rw [Schema.compare, if_neg same]
    exact ⟨iff_of_false nofun same, nofun⟩

/-- **The check of a scenario** changes nothing but its own table, which is there in the end, and it
passes just when nothing stands in its way. -/
theorem exists_leads_check (present : database ∈ m.databases) (settings : ScenarioSettings)
    (scenario : Scenario) :
    ∃ result m', Leads (scenario.check client database settings) m result m' ∧ m.FailsAs m' ∧
      Grows database settings [scenario] m m' ∧
      (∃ table, m'.find? database scenario.tableName = some table) ∧
      ((∃ report, result = .ok report) ↔ scenario.Fits database m') ∧
      ∀ report, result = .ok report → report.again = scenario.repeated := by
  cases found : m.find? database scenario.tableName with
  | some table =>
    have provided := leads_ensureTable_of_some (scenario.table settings database) present found
    refine ⟨_, m, leads_check provided found, .refl m, .refl settings present _, ⟨table, found⟩,
      ?_⟩
    rw [fits_iff_of_some found]
    exact exists_report_iff scenario _ _
  | none =>
    have provided := leads_ensureTable_of_none (scenario.table settings database) present found
    have stored := find?_of_withTable settings found
    refine ⟨_, _, leads_check provided stored, failsAs_withTable m _, grows_withTable present,
      ⟨_, stored⟩, ?_⟩
    rw [fits_iff_of_some stored]
    exact exists_report_iff scenario _ _

/-- **The checks of scenarios** change nothing but their tables, and pass just when nothing stands
in the way of any of them; then all their tables are there. -/
theorem exists_leads_checkAll (present : database ∈ m.databases) (settings : ScenarioSettings)
    (scenarios : List Scenario) :
    ∃ result m', Leads (checkAll client database settings scenarios) m result m' ∧ m.FailsAs m' ∧
      Grows database settings scenarios m m' ∧
      ((∃ reports, result = .ok reports) ↔ ∀ scenario ∈ scenarios, scenario.Fits database m') ∧
      ∀ reports, result = .ok reports →
        (∀ scenario ∈ scenarios, ∃ table, m'.find? database scenario.tableName = some table) ∧
          reports.map ScenarioReport.again = scenarios.map repeated := by
  induction scenarios generalizing m with
  | nil =>
    refine ⟨_, m, leads_pure [] m, .refl m, .refl settings present [], ?_, ?_⟩
    · exact iff_of_true ⟨[], rfl⟩ nofun
    · rintro reports ⟨⟩
      exact ⟨nofun, rfl⟩
  | cons scenario rest ih =>
    obtain ⟨result, m', checked, fails, grows, ⟨table, found⟩, passes, again⟩ :=
      exists_leads_check present settings scenario
    have present' : database ∈ m'.databases := (grows.databases database).2 (.inr rfl)
    match result with
    | .error e =>
      have grows := grows.cons (.refl settings present' rest)
      refine ⟨_, m', checked.bind_error, fails, grows, iff_of_false nofun fun fits => ?_, nofun⟩
      obtain ⟨_, impossible⟩ := passes.2 (fits scenario List.mem_cons_self)
      cases impossible
    | .ok report =>
      obtain ⟨result, m'', checkedRest, failsRest, growsRest, passesRest, againRest⟩ := ih present'
      refine ⟨_, m'', checked.bind_ok (checkedRest.bind_pure (report :: ·)), fails.trans failsRest,
        grows.cons growsRest, ?_, ?_⟩
      · have first : scenario.Fits database m'' :=
          (growsRest.fits_iff failsRest scenario).2 (passes.1 ⟨report, rfl⟩)
        rw [exists_map_eq_ok_iff, List.forall_mem_cons, and_iff_right first, passesRest]
      · match result with
        | .error e => exact nofun
        | .ok reports =>
          rintro _ ⟨⟩
          obtain ⟨stored, reported⟩ := againRest reports rfl
          refine ⟨List.forall_mem_cons.2 ⟨⟨table, growsRest.kept found⟩, stored⟩, ?_⟩
          rw [List.map_cons, again report rfl, reported, List.map_cons]

/-- Scenarios that have nothing left to provide change nothing. -/
theorem leads_checkAll_of_provided (faultless : m.Faultless)
    (provided : Provided database scenarios m) (settings : ScenarioSettings) :
    Leads (checkAll client database settings scenarios) m (.ok (scenarios.map repeated)) m := by
  induction scenarios with
  | nil => exact leads_pure [] m
  | cons scenario rest ih =>
    obtain ⟨⟨table, found, expected⟩, stored⟩ := List.forall_mem_cons.1 provided.stored
    have checked := leads_check (leads_ensureTable_of_some (scenario.table settings database)
      provided.present found) found
    rw [faultless.reported_eq, expected, Schema.compare, if_pos rfl] at checked
    exact checked.bind_ok ((ih ⟨provided.present, stored⟩).bind_pure _)

end Scenario

/-! ## Runs -/

/-- What a run of the schema suite reports where everything existed already. -/
def Report.repeated (scenarios : List Scenario) : Report :=
  { database := some .alreadyExisted, scenarios := scenarios.map Scenario.repeated }

namespace Run

variable {run : Run} {scenarios : List Scenario}

/-- **A run of the schema suite** whose database is admitted adds it and the tables of its scenarios
and changes nothing that was there.  It passes just when nothing stood in the way of a scenario. -/
theorem exists_leads_perform_of_admits (run : Run) (suite : run.suite = .schema scenarios)
    (admitted : m.Admits run.database) :
    ∃ result m', Leads (Suite.perform client run) m result m' ∧ m.FailsAs m' ∧
      Scenario.Grows run.database run.scenarios scenarios m m' ∧
      ((∃ report, result = .ok report) ↔ ∀ scenario ∈ scenarios, scenario.Fits run.database m) ∧
      ∀ report, result = .ok report →
        (∀ scenario ∈ scenarios, ∃ table,
          m'.find? run.database scenario.tableName = some table) ∧
          report.again = .repeated scenarios := by
  obtain ⟨outcome, m', ensured, fails, databases, tables⟩ := exists_leads_ensureDatabase admitted
  obtain ⟨result, m'', checked, failsRest, growsRest, passes, passed⟩ :=
    Scenario.exists_leads_checkAll ((databases run.database).2 (.inr rfl)) run.scenarios scenarios
  have performed : Leads (Suite.perform client run) m
      (result.map fun reports => { database := some outcome, scenarios := reports }) m'' := by
    unfold Suite.perform
    rw [suite]
    exact ensured.bind_ok (checked.bind_pure _)
  have grows := growsRest.behind_database databases tables
  refine ⟨_, m'', performed, fails.trans failsRest, grows, ?_, ?_⟩
  · rw [exists_map_eq_ok_iff, passes]
    simp only [grows.fits_iff (fails.trans failsRest)]
  · match result with
    | .error e => exact nofun
    | .ok reports =>
      rintro _ ⟨⟩
      obtain ⟨stored, again⟩ := passed reports rfl
      refine ⟨stored, ?_⟩
      rw [Report.repeated, ← again]
      rfl

/-- Where no failure is laid down, everything is provided once a run has passed. -/
theorem exists_leads_perform (suite : run.suite = .schema scenarios) (faultless : m.Faultless) :
    ∃ result m', Leads (Suite.perform client run) m result m' ∧ m'.Faultless ∧
      Scenario.Grows run.database run.scenarios scenarios m m' ∧
      ∀ report, result = .ok report → Scenario.Provided run.database scenarios m' ∧
        report.again = .repeated scenarios := by
  obtain ⟨result, m', performed, fails, grows, passes, passed⟩ :=
    exists_leads_perform_of_admits run suite (faultless.admits run.database)
  have faultless' : m'.Faultless := fails.faultless faultless
  refine ⟨result, m', performed, faultless', grows, fun report given => ?_⟩
  obtain ⟨stored, again⟩ := passed report given
  refine ⟨⟨(grows.databases run.database).2 (.inr rfl), fun scenario listed => ?_⟩, again⟩
  obtain ⟨table, found⟩ := stored scenario listed
  have fits : scenario.Fits run.database m' :=
    (grows.fits_iff fails scenario).2 (passes.1 ⟨report, given⟩ scenario listed)
  rw [Scenario.fits_iff_of_some found, faultless'.reported_eq] at fits
  exact ⟨table, found, fits⟩

/-- A run that has nothing left to provide changes nothing. -/
theorem leads_perform_of_provided (suite : run.suite = .schema scenarios) (faultless : m.Faultless)
    (provided : Scenario.Provided run.database scenarios m) :
    Leads (Suite.perform client run) m (.ok (.repeated scenarios)) m := by
  have checked := Scenario.leads_checkAll_of_provided faultless provided run.scenarios
  unfold Suite.perform
  rw [suite]
  have ensured := leads_ensureDatabase_of_mem (faultless.admits run.database) provided.present
  exact ensured.bind_ok (checked.bind_pure _)

/-- **Runs of the schema suite can be made again.**  Whatever a run comes to, it changes nothing
that was there and adds only its database and the tables of its scenarios.  If it passes, every
later run for the same database and the same scenarios passes, whatever its target and its settings
are: it reports the same schemas, but that everything existed already, and changes nothing. -/
theorem perform_again (run : Run) {scenarios : List Scenario}
    (suite : run.suite = .schema scenarios) (m : InMemoryMetastore) (faultless : m.Faultless) :
    ∃ result m', Leads (Suite.perform client run) m result m' ∧
      Scenario.Grows run.database run.scenarios scenarios m m' ∧
      ∀ report, result = .ok report → ∀ later : List Run,
        (∀ again ∈ later, again.database = run.database ∧ again.suite = run.suite) →
        Leads (later.mapM (Suite.perform client)) m'
          (.ok (later.map fun _ => report.again)) m' := by
  obtain ⟨result, m', performed, faultless', grows, passed⟩ :=
    exists_leads_perform suite faultless
  refine ⟨result, m', performed, grows, ?_⟩
  intro report given later same
  obtain ⟨provided, again⟩ := passed report given
  rw [again]
  refine leads_mapM fun other listed => ?_
  obtain ⟨sameDatabase, sameSuite⟩ := same other listed
  rw [← sameDatabase] at provided
  exact leads_perform_of_provided (sameSuite.trans suite) faultless' provided

/-- A table that was there with another location, a scenario that is listed twice, and a second run
with other settings. -/
theorem perform_again_of_duplicate :
    let settings : ScenarioSettings := { s3Location := "s3a://a/", externalTables := true }
    let m : InMemoryMetastore :=
      { databases := ["d"]
        tables := [(("d", "s3_one_column_table"), Scenario.s3.table settings "d")] }
    let run : Run := ⟨⟨"h", 9083, none⟩, "d", .schema [.local, .s3, .local], {}⟩
    let other : Run := { run with scenarios := { settings with compressed := true } }
    m.Faultless ∧ (other.database = run.database ∧ other.suite = run.suite) ∧
      ∃ report m', Leads (Suite.perform client run) m (.ok report) m' ∧
        report.database = some .alreadyExisted ∧
        report.scenarios.map (·.outcome) = [.created, .alreadyExisted, .alreadyExisted] ∧
        Leads ([other, run].mapM (Suite.perform client)) m'
          (.ok [report.again, report.again]) m' := by
  intro settings m run other
  have faultless : m.Faultless := ⟨rfl, rfl, rfl⟩
  have same : ∀ again ∈ [other, run], again.database = run.database ∧ again.suite = run.suite := by
    simp [other]
  obtain ⟨result, m', first, -, later⟩ := perform_again run rfl m faultless
  obtain ⟨report, passed, shown⟩ : ∃ report,
      resultOf (Suite.perform client run { client := m }) = .ok report ∧
        report.database = some .alreadyExisted ∧
        report.scenarios.map (·.outcome) = [.created, .alreadyExisted, .alreadyExisted] :=
    ⟨_, rfl, rfl, rfl⟩
  have result_eq : result = .ok report := (first _ rfl).1.symm.trans passed
  refine ⟨faultless, ⟨rfl, rfl⟩, report, m', result_eq ▸ first, shown.1, shown.2, ?_⟩
  exact later report result_eq [other, run] same

end Run

end MetastoreProbe
