import MetastoreProbe.Settings

/-!
# The conditions on settings

The conditions have an order, `Violation.inOrder`.  Settings are checked against them in this
order, and the first that they break is the one that is reported (`Settings.validate_eq`); they
pass just when they are `Settings.Valid`.
-/

namespace MetastoreProbe

namespace Violation

/-- The settings break the condition. -/
def BrokenBy (s : Settings) : Violation → Prop
  | portIsZero => s.connection.port = 0
  | namespaceServiceEmpty => s.connection.namespaceService = ""
  | kerberosServiceEmpty => s.kerberos.serviceName = ""
  | locationEmpty key => (key, "") ∈ s.scenarios.locations

instance (s : Settings) : DecidablePred (BrokenBy s)
  | portIsZero => inferInstanceAs (Decidable (s.connection.port = 0))
  | namespaceServiceEmpty => inferInstanceAs (Decidable (s.connection.namespaceService = ""))
  | kerberosServiceEmpty => inferInstanceAs (Decidable (s.kerberos.serviceName = ""))
  | locationEmpty key => inferInstanceAs (Decidable ((key, "") ∈ s.scenarios.locations))

/-- The conditions on settings, in the order in which they are checked. -/
def inOrder : List Violation :=
  [portIsZero, namespaceServiceEmpty, kerberosServiceEmpty, locationEmpty "warehouse_root",
    locationEmpty "s3_location", locationEmpty "hdfs_location"]

example : inOrder.map message =
    ["Port must not be 0", "Namespace service name is required",
      "Kerberos service name is required", "warehouse_root must not be empty",
      "s3_location must not be empty", "hdfs_location must not be empty"] := by
  decide

end Violation

namespace Settings

open Violation

variable {s : Settings}

/-- The settings keep every condition. -/
structure Valid (s : Settings) : Prop where
  port : s.connection.port ≠ 0
  namespaceService : s.connection.namespaceService ≠ ""
  serviceName : s.kerberos.serviceName ≠ ""
  warehouseRoot : s.scenarios.warehouseRoot ≠ ""
  s3Location : s.scenarios.s3Location ≠ ""
  hdfsLocation : s.scenarios.hdfsLocation ≠ ""

/-- The first condition in the order that the settings break. -/
def firstBroken? (s : Settings) : Option Violation := inOrder.find? fun v => v.BrokenBy s

theorem portIsZero_brokenBy : portIsZero.BrokenBy s ↔ s.connection.port = 0 := .rfl

theorem namespaceServiceEmpty_brokenBy :
    namespaceServiceEmpty.BrokenBy s ↔ s.connection.namespaceService = "" := .rfl

theorem kerberosServiceEmpty_brokenBy :
    kerberosServiceEmpty.BrokenBy s ↔ s.kerberos.serviceName = "" := .rfl

theorem locationEmpty_brokenBy :
    ((locationEmpty "warehouse_root").BrokenBy s ↔ s.scenarios.warehouseRoot = "") ∧
      ((locationEmpty "s3_location").BrokenBy s ↔ s.scenarios.s3Location = "") ∧
      ((locationEmpty "hdfs_location").BrokenBy s ↔ s.scenarios.hdfsLocation = "") := by
  simp [BrokenBy, ScenarioSettings.locations, @eq_comm _ ""]

/-- The violations are the broken conditions, in their order. -/
theorem violations_eq_filter (s : Settings) :
    s.violations = inOrder.filter fun v => v.BrokenBy s := by
  have split : inOrder = [portIsZero] ++ [namespaceServiceEmpty] ++ [kerberosServiceEmpty] ++
      [locationEmpty "warehouse_root", locationEmpty "s3_location",
        locationEmpty "hdfs_location"] := rfl
  rw [split, List.filter_append, List.filter_append, List.filter_append]
  unfold violations
  congr 1
  · simp [List.filter_cons, portIsZero_brokenBy, namespaceServiceEmpty_brokenBy,
      kerberosServiceEmpty_brokenBy]
  · obtain ⟨warehouseRoot, s3Location, hdfsLocation⟩ := locationEmpty_brokenBy (s := s)
    by_cases root : s.scenarios.warehouseRoot = "" <;>
      by_cases s3 : s.scenarios.s3Location = "" <;>
      by_cases hdfs : s.scenarios.hdfsLocation = "" <;>
      simp [ScenarioSettings.locations, warehouseRoot, s3Location, hdfsLocation, root, s3, hdfs]

/-- **The first broken condition is reported**, and nothing if there is none. -/
theorem validate_eq (s : Settings) :
    s.validate =
      match s.firstBroken? with
      | none => .ok ()
      | some violation => .error (.invalid violation) := by
  unfold validate firstBroken?
  rw [violations_eq_filter, ← List.head?_filter]
  cases inOrder.filter fun v => v.BrokenBy s <;> rfl

/-- Only the conditions are reported. -/
theorem exists_violation_of_validate {fault : ConfigFault} (failed : s.validate = .error fault) :
    ∃ violation ∈ inOrder, fault = .invalid violation := by
  rw [validate_eq] at failed
  cases first : s.firstBroken? with
  | none =>
    rw [first] at failed
    cases failed
  | some violation =>
    rw [first] at failed
    cases failed
    exact ⟨violation, List.mem_of_find?_eq_some first, rfl⟩

theorem firstBroken?_eq_none_iff : s.firstBroken? = none ↔ s.Valid := by
  obtain ⟨warehouseRoot, s3Location, hdfsLocation⟩ := locationEmpty_brokenBy (s := s)
  unfold firstBroken?
  rw [List.find?_eq_none]
  simp only [inOrder, List.forall_mem_cons, decide_eq_true_eq, portIsZero_brokenBy,
    namespaceServiceEmpty_brokenBy, kerberosServiceEmpty_brokenBy, warehouseRoot, s3Location,
    hdfsLocation]
  constructor
  · rintro ⟨port, namespaceService, serviceName, root, s3, hdfs, -⟩
    exact ⟨port, namespaceService, serviceName, root, s3, hdfs⟩
  · rintro ⟨port, namespaceService, serviceName, root, s3, hdfs⟩
    exact ⟨port, namespaceService, serviceName, root, s3, hdfs, nofun⟩

theorem firstBroken?_eq_some_iff {v : Violation} :
    s.firstBroken? = some v ↔ v.BrokenBy s ∧
      ∃ before after, inOrder = before ++ v :: after ∧ ∀ w ∈ before, ¬ w.BrokenBy s := by
  unfold firstBroken?
  rw [List.find?_eq_some_iff_append]
  simp

/-- **Settings pass just when they keep every condition.** -/
theorem validate_eq_ok_iff : s.validate = .ok () ↔ s.Valid := by
  rw [validate_eq, ← firstBroken?_eq_none_iff]
  cases s.firstBroken? <;> simp

end Settings

end MetastoreProbe
