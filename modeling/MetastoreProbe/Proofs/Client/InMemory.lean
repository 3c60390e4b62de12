import MetastoreProbe.Client.InMemory
import MetastoreProbe.Proofs.Client.Session

/-!
# Calls on a metastore in memory

What each call of a check does to a metastore in memory: whether the object is there already decides
the answer, and an object that is created is the only change.  The failures that are laid down stay
as they are (`InMemoryMetastore.FailsAs`); they keep a database from being provided
(`InMemoryMetastore.Admits`), or put another schema in the place of a table's
(`InMemoryMetastore.reported`).  Nothing that follows opens the operations again.
-/

namespace MetastoreProbe

namespace InMemoryMetastore

open Session

variable {m : InMemoryMetastore}

/-- No failure is laid down: no database is denied, the server can be reached, and a schema is that
of the table. -/
structure Faultless (m : InMemoryMetastore) : Prop where
  denied : m.denied = []
  reachable : m.unreachable = false
  override : m.schemaOverride = none

/-- The metastore with one more database. -/
def withDatabase (m : InMemoryMetastore) (name : String) : InMemoryMetastore :=
  { m with databases := m.databases ++ [name] }

/-- The metastore with one more table. -/
def withTable (m : InMemoryMetastore) (table : Table) : InMemoryMetastore :=
  { m with tables := m.tables ++ [((table.database, table.name), table)] }

/-- The same failures are laid down for the one metastore as for the other. -/
structure FailsAs (m m' : InMemoryMetastore) : Prop where
  denied : m'.denied = m.denied
  unreachable : m'.unreachable = m.unreachable
  override : m'.schemaOverride = m.schemaOverride

/-- The metastore can be reached, and the database is not denied. -/
def Admits (m : InMemoryMetastore) (database : String) : Prop :=
  m.unreachable = false ∧ database ∉ m.denied

/-- The schema that is reported for a table that has the given one. -/
def reported (m : InMemoryMetastore) (schema : Schema) : Schema :=
  m.schemaOverride.getD schema

theorem FailsAs.refl (m : InMemoryMetastore) : m.FailsAs m :=
  ⟨rfl, rfl, rfl⟩

theorem FailsAs.trans {m' m'' : InMemoryMetastore} (h : m.FailsAs m') (h' : m'.FailsAs m'') :
    m.FailsAs m'' :=
  ⟨h'.denied.trans h.denied, h'.unreachable.trans h.unreachable, h'.override.trans h.override⟩

theorem FailsAs.reported_eq {m' : InMemoryMetastore} (h : m.FailsAs m') (schema : Schema) :
    m'.reported schema = m.reported schema := by
  rw [reported, h.override, reported]

theorem FailsAs.faultless {m' : InMemoryMetastore} (h : m.FailsAs m') (faultless : m.Faultless) :
    m'.Faultless :=
  ⟨h.denied.trans faultless.denied, h.unreachable.trans faultless.reachable,
    h.override.trans faultless.override⟩

theorem failsAs_withDatabase (m : InMemoryMetastore) (name : String) :
    m.FailsAs (m.withDatabase name) :=
  ⟨rfl, rfl, rfl⟩

theorem failsAs_withTable (m : InMemoryMetastore) (table : Table) : m.FailsAs (m.withTable table) :=
  ⟨rfl, rfl, rfl⟩

theorem Faultless.admits (faultless : m.Faultless) (database : String) : m.Admits database := by
  refine ⟨faultless.reachable, ?_⟩
  rw [faultless.denied]
  exact List.not_mem_nil

theorem Faultless.reported_eq (faultless : m.Faultless) (schema : Schema) :
    m.reported schema = schema := by
  rw [reported, faultless.override, Option.getD_none]

theorem mem_databases_withDatabase {name name' : String} :
    name' ∈ (m.withDatabase name).databases ↔ name' ∈ m.databases ∨ name' = name := by
  simp [withDatabase]

/-- What there was is found as before, and besides it there is just the new table. -/
theorem find?_withTable (table : Table) (database name : String) :
    (m.withTable table).find? database name =
      (m.find? database name).or
        (if database = table.database ∧ name = table.name then some table else none) := by
  unfold find? withTable
  rw [List.lookup_append, List.lookup_cons, List.lookup_nil]
  congr 1
  by_cases same : database = table.database ∧ name = table.name
  · obtain ⟨rfl, rfl⟩ := same
    simp
  · have other : ((database, name) == (table.database, table.name)) = false := by simpa using same
    rw [other, if_neg same]

/-! ## Calls -/

theorem leads_ensureDatabase_of_mem {name : String} (admitted : m.Admits name)
    (present : name ∈ m.databases) :
    Leads (client.ensureDatabase name) m (.ok .alreadyExisted) m := by
  have answered : createDatabase name m = .ok .alreadyExisted m := by
    simp [createDatabase, admitted.1, admitted.2, present]
  exact leads_call answered _

theorem leads_ensureDatabase_of_not_mem {name : String} (admitted : m.Admits name)
    (absent : name ∉ m.databases) :
    Leads (client.ensureDatabase name) m (.ok .created) (m.withDatabase name) := by
  have answered : createDatabase name m = .ok .created (m.withDatabase name) := by
    simp [createDatabase, admitted.1, admitted.2, absent, withDatabase]
  exact leads_call answered _

/-- **A database that is admitted is provided in any case**, and no other one, and no table. -/
theorem exists_leads_ensureDatabase {name : String} (admitted : m.Admits name) :
    ∃ outcome m', Leads (client.ensureDatabase name) m (.ok outcome) m' ∧ m.FailsAs m' ∧
      (∀ name', name' ∈ m'.databases ↔ name' ∈ m.databases ∨ name' = name) ∧
      m'.tables = m.tables := by
  by_cases present : name ∈ m.databases
  · refine ⟨_, m, leads_ensureDatabase_of_mem admitted present, .refl m, fun name' => ?_, rfl⟩
    refine ⟨.inl, ?_⟩
    rintro (old | rfl)
    · exact old
    · exact present
  · exact ⟨_, m.withDatabase name, leads_ensureDatabase_of_not_mem admitted present,
      failsAs_withDatabase m name, fun _ => mem_databases_withDatabase, rfl⟩

/-- A database that is not admitted is refused. -/
theorem exists_leads_ensureDatabase_of_not_admits {name : String} (refused : ¬ m.Admits name) :
    ∃ e, Leads (client.ensureDatabase name) m (.error e) m := by
  by_cases unreachable : m.unreachable = true
  · have answered : createDatabase name m =
        .error (.metastore (.transport (.other "broken pipe"))) m := if_pos unreachable
    exact ⟨_, leads_call_of_error answered _⟩
  · have denied : name ∈ m.denied :=
      Decidable.not_not.1 fun other => refused ⟨Bool.eq_false_iff.2 unreachable, other⟩
    have answered : createDatabase name m = .error (exception "create_database" "MetaException"
        s!"Permission denied on database {name}") m := (if_neg unreachable).trans (if_pos denied)
    exact ⟨_, leads_call_of_error answered _⟩

theorem leads_ensureTable_of_some (table : Table) {stored : Table}
    (owned : table.database ∈ m.databases)
    (found : m.find? table.database table.name = some stored) :
    Leads (client.ensureTable table) m (.ok .alreadyExisted) m := by
  have answered : createTable table m = .ok .alreadyExisted m := by
    simp [createTable, owned, found]
  refine (leads_call answered _).bind_ok ?_
  exact (leads_print _ m).bind_ok (leads_pure _ m)

theorem leads_ensureTable_of_none (table : Table) (owned : table.database ∈ m.databases)
    (absent : m.find? table.database table.name = none) :
    Leads (client.ensureTable table) m (.ok .created) (m.withTable table) := by
  have answered : createTable table m = .ok .created (m.withTable table) := by
    simp [createTable, owned, absent, withTable]
  exact (leads_call answered _).bind_ok (leads_pure _ _)

theorem leads_fetchSchema_of_some {database name : String} {table : Table}
    (found : m.find? database name = some table) :
    Leads (client.fetchSchema database name) m (.ok (m.reported table.schema)) m := by
  have answered : getSchema database name m = .ok (m.reported table.schema) m := by
    unfold getSchema reported
    cases m.schemaOverride with
    | some schema => rfl
    | none => simp only [found, Option.getD_none]
  exact leads_call answered _

end InMemoryMetastore

end MetastoreProbe
