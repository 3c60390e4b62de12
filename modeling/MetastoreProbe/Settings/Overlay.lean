import MetastoreProbe.Settings
import MetastoreProbe.Toml.Value

/-!
# Settings of a document

A settings document is laid over the defaults: `Settings.ofEntries` gives every setting that the
document names the value it has there, and leaves every other setting at its default.  Keys and
sections without a meaning are passed over.

A section is usually a table.  It may be written as a list instead, whose values then belong to
the section's settings in their declared order; values beyond the last setting are passed over as
well.
-/

namespace MetastoreProbe

open Toml (Value Entries Fault)

/-! ## Values of settings -/

/-- How a setting reads its value. -/
abbrev FromValue (α : Type) : Type := Value → Except Fault α

namespace FromValue

/-- A text. -/
def string : FromValue String
  | .string s => .ok s
  | _ => .error (.wrongType "string")

/-- A truth value. -/
def boolean : FromValue Bool
  | .boolean b => .ok b
  | _ => .error (.wrongType "boolean")

/-- A port. -/
def port : FromValue UInt16
  | .integer n =>
    if 0 ≤ n ∧ n < 65536 then .ok (UInt16.ofNat n.toNat) else .error (.outOfRange "port")
  | _ => .error (.wrongType "integer")

/-- The log format with the given name. -/
def logFormatNamed (name : String) : Except Fault LogFormat :=
  if name = LogFormat.text.name then .ok .text
  else if name = LogFormat.json.name then .ok .json
  else .error (.unknownName name [LogFormat.text.name, LogFormat.json.name])

/-- Whether a value says nothing beyond its key. -/
def isHollow : Value → Bool
  | .array items => items.isEmpty
  | .table _ entries => entries.isEmpty
  | .tables items => items.isEmpty
  | _ => false

/-- A log format: its name, or a table with the name as its only key and nothing under it. -/
def logFormat : FromValue LogFormat
  | .string name => logFormatNamed name
  | .table _ [(name, value)] => do
    let format ← logFormatNamed name
    if isHollow value then .ok format else .error (.expected "nothing under a log format")
  | .table _ _ => .error (.expected "one log format")
  | _ => .error (.wrongType "string or table")

end FromValue

/-! ## Sections -/

/-- The values that a section gives to the settings with the given keys.  A point in time gives
none. -/
def Toml.Value.section (keys : List String) : Value → Except Fault Entries
  | .table _ entries => .ok entries
  | .array items => .ok (keys.zip items)
  | .tables items => .ok (keys.zip (items.map (.table .header)))
  | .dateTime _ => .ok []
  | _ => .error (.wrongType "table")

/-- The setting with the given key, or its default. -/
def Toml.Entries.setting {α : Type} (entries : Entries) (key : String) (default : α)
    (read : FromValue α) : Except Fault α :=
  match entries.lookup key with
  | none => .ok default
  | some value => read value

namespace ConnectionDefaults

/-- The keys of the section. -/
def keys : List String := ["port", "namespace_service", "role_group"]

/-- The section that a value spells. -/
def ofValue : FromValue ConnectionDefaults := fun value => do
  let entries ← value.section keys
  let standard : ConnectionDefaults := {}
  let port ← entries.setting "port" standard.port .port
  let namespaceService ←
    entries.setting "namespace_service" standard.namespaceService .string
  let roleGroup ← entries.setting "role_group" standard.roleGroup .string
  return { port, namespaceService, roleGroup }

end ConnectionDefaults

namespace KerberosSettings

/-- The keys of the section. -/
def keys : List String := ["service_name", "pod_host_prefix", "principal_host_prefix"]

/-- The section that a value spells. -/
def ofValue : FromValue KerberosSettings := fun value => do
  let entries ← value.section keys
  let standard : KerberosSettings := {}
  let serviceName ← entries.setting "service_name" standard.serviceName .string
  let podHostPrefix ← entries.setting "pod_host_prefix" standard.podHostPrefix .string
  let principalHostPrefix ←
    entries.setting "principal_host_prefix" standard.principalHostPrefix .string
  return { serviceName, podHostPrefix, principalHostPrefix }

end KerberosSettings

namespace ScenarioSettings

/-- The keys of the section. -/
def keys : List String :=
  ["warehouse_root", "s3_location", "hdfs_location", "external_tables", "compressed"]

/-- The section that a value spells. -/
def ofValue : FromValue ScenarioSettings := fun value => do
  let entries ← value.section keys
  let standard : ScenarioSettings := {}
  let warehouseRoot ← entries.setting "warehouse_root" standard.warehouseRoot .string
  let s3Location ← entries.setting "s3_location" standard.s3Location .string
  let hdfsLocation ← entries.setting "hdfs_location" standard.hdfsLocation .string
  let externalTables ← entries.setting "external_tables" standard.externalTables .boolean
  let compressed ← entries.setting "compressed" standard.compressed .boolean
  return { warehouseRoot, s3Location, hdfsLocation, externalTables, compressed }

end ScenarioSettings

namespace MonitoringSettings

/-- The keys of the section. -/
def keys : List String := ["log_format"]

/-- The section that a value spells. -/
def ofValue : FromValue MonitoringSettings := fun value => do
  let entries ← value.section keys
  let standard : MonitoringSettings := {}
  let logFormat ← entries.setting "log_format" standard.logFormat .logFormat
  return { logFormat }

end MonitoringSettings

namespace Settings

/-- The settings that the entries of a document spell. -/
def ofEntries (entries : Entries) : Except Fault Settings := do
  let standard : Settings := {}
  let connection ← entries.setting "connection" standard.connection ConnectionDefaults.ofValue
  let kerberos ← entries.setting "kerberos" standard.kerberos KerberosSettings.ofValue
  let scenarios ← entries.setting "scenarios" standard.scenarios ScenarioSettings.ofValue
  let monitoring ← entries.setting "monitoring" standard.monitoring MonitoringSettings.ofValue
  return { connection, kerberos, scenarios, monitoring }

end Settings

end MetastoreProbe
