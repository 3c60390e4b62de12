import MetastoreProbe.Settings
import MetastoreProbe.Table

/-!
# Storage scenarios

A scenario is a kind of storage in which a table is created and its schema read back.  Its name
and its location come from the scenario alone, so running one does not depend on another.
-/

namespace MetastoreProbe

/-- A kind of storage. -/
inductive Scenario
  | local
  | s3
  | hdfs
  deriving DecidableEq, Repr

namespace Scenario

/-- The name of the table that a scenario creates. -/
def tableName : Scenario → String
  | .local => "one_column_table"
  | .s3 => "s3_one_column_table"
  | .hdfs => "hdfs_one_column_table"

/-- What a scenario is called in messages. -/
def label : Scenario → String
  | .local => "local"
  | .s3 => "s3"
  | .hdfs => "HDFS"

/-- The word that selects a scenario. -/
def word : Scenario → String
  | .local => "local"
  | .s3 => "s3"
  | .hdfs => "hdfs"

/-- The scenario that a word selects, its letters in either case. -/
def parse (word : String) : Except UsageFault Scenario :=
  let lowered := Text.lowerAscii word
  if lowered = "local" then .ok .local
  else if lowered = "s3" then .ok .s3
  else if lowered = "hdfs" then .ok .hdfs
  else .error (.unknownScenario lowered)

/-- Where the table of a scenario lies: local tables each have a directory under the warehouse,
the others share the location of their store. -/
def location (scenario : Scenario) (settings : ScenarioSettings) (database : String) : String :=
  match scenario with
  | .local =>
    let root := Text.trimEnd '/' settings.warehouseRoot
    s!"{root}/location_{database}_{scenario.tableName}"
  | .s3 => settings.s3Location
  | .hdfs => settings.hdfsLocation

/-- The scenarios that run when none is asked for. -/
def defaults (kerberos : Bool) : List Scenario :=
  if kerberos then [.local, .hdfs] else [.local, .s3]

/-- The table that a scenario creates. -/
def table (scenario : Scenario) (settings : ScenarioSettings) (database : String) : Table :=
  { Table.smoke database scenario.tableName (scenario.location settings database) with
    compressed := settings.compressed
    kind := if settings.externalTables then .external else .managed }

@[simp] theorem schema_table (scenario : Scenario) (settings : ScenarioSettings)
    (database : String) : (scenario.table settings database).schema = Schema.oneColumn := rfl

@[simp] theorem name_table (scenario : Scenario) (settings : ScenarioSettings)
    (database : String) : (scenario.table settings database).name = scenario.tableName := rfl

end Scenario

end MetastoreProbe
