import Mathlib
import MetastoreProbe.Settings.File
import MetastoreProbe.Proofs.Settings.Validity
import MetastoreProbe.Proofs.Text.Utf8

/-!
# A settings file is laid over the defaults

A document gives values to some of the twelve settings and leaves the others out, each of its four
sections missing, empty or in part, with whatever else the document may hold beside them.
`GivenSettings` is what is given, `GivenSettings.SaidIn` how a document says it, and
`GivenSettings.laidOver` the settings that come of it: a setting that is given has its value, every
other one keeps its default (`ofEntries_of_saidIn`).

`load_eq_overlay` adds how the settings are checked then, for a file as a whole.
-/

namespace MetastoreProbe

open Toml (Value Entries Fault)

/-! ## Values -/

namespace FromValue

/-- The value is this text. -/
def IsText (s : String) (value : Value) : Prop := value = .string s

/-- The value is this truth value. -/
def IsTruth (b : Bool) (value : Value) : Prop := value = .boolean b

/-- The value is the number of this port. -/
def IsPort (p : UInt16) (value : Value) : Prop := value = .integer p.toNat

/-- The value names this log format: by a text, or by a table with the name as its only key and
nothing under it. -/
inductive IsLogFormat (f : LogFormat) : Value → Prop
  | text : IsLogFormat f (.string f.name)
  | key (origin : Toml.Origin) {value : Value} (hollow : isHollow value = true) :
    IsLogFormat f (.table origin [(f.name, value)])

theorem string_eq_ok_iff {value : Value} {s : String} :
    string value = .ok s ↔ IsText s value := by
  cases value <;> simp [string, IsText]

theorem boolean_eq_ok_iff {value : Value} {b : Bool} :
    boolean value = .ok b ↔ IsTruth b value := by
  cases value <;> simp [boolean, IsTruth]

theorem port_eq_ok_iff {value : Value} {p : UInt16} : port value = .ok p ↔ IsPort p value := by
  unfold IsPort
  cases value with
  | integer n =>
    unfold port
    rw [Value.integer.injEq]
    by_cases inRange : 0 ≤ n ∧ n < 65536
    · simp only [if_pos inRange, Except.ok.injEq, ← UInt16.toNat_inj]
      rw [UInt16.toNat_ofNat_of_lt' (by simp only [UInt16.size]; omega)]
      omega
    · have small := p.toNat_lt
      simp only [if_neg inRange]
      constructor
      · exact nofun
      · omega
  | _ => simp [port]

theorem logFormatNamed_eq_ok_iff {name : String} {f : LogFormat} :
    logFormatNamed name = .ok f ↔ name = f.name := by
  unfold logFormatNamed
  by_cases text : name = LogFormat.text.name
  · subst text
    cases f <;> simp [LogFormat.name]
  by_cases json : name = LogFormat.json.name
  · subst json
    cases f <;> simp [LogFormat.name]
  cases f <;> simp [text, json]

theorem logFormat_eq_ok_iff {value : Value} {f : LogFormat} :
    logFormat value = .ok f ↔ IsLogFormat f value := by
  constructor
  · intro h
    unfold logFormat at h
    split at h
    next name =>
      obtain rfl := logFormatNamed_eq_ok_iff.1 h
      exact .text
    next origin name value =>
      cases named : logFormatNamed name with
      | error fault =>
        rw [named] at h
        cases h
      | ok format =>
        rw [named] at h
        obtain rfl := logFormatNamed_eq_ok_iff.1 named
        change (if isHollow value then _ else _) = _ at h
        split at h
        next hollow =>
          cases h
          exact .key origin hollow
        next => cases h
    next => cases h
    next => cases h
  · rintro (_ | ⟨origin, hollow⟩)
    · exact logFormatNamed_eq_ok_iff.2 rfl
    · change (logFormatNamed f.name >>= _) = _
      rw [logFormatNamed_eq_ok_iff.2 rfl]
      exact if_pos hollow

end FromValue

/-! ## Keys and sections -/

namespace Toml.Entries

variable {entries inner : Entries} {key : String} {α : Type}

/-- The entries give this to a key: nothing, or a value that spells it. -/
def Gives (entries : Entries) (key : String) (spelled : α → Value → Prop) : Option α → Prop
  | none => entries.lookup key = none
  | some a => ∃ value, entries.lookup key = some value ∧ spelled a value

/-- What the entries have in the section with this key; a section that is missing has nothing. -/
inductive HasSection (entries : Entries) (key : String) : Entries → Prop
  | missing (absent : entries.lookup key = none) : entries.HasSection key []
  | table {origin : Origin} {inner : Entries}
      (present : entries.lookup key = some (.table origin inner)) : entries.HasSection key inner

/-- A setting that is given has its value, and one that is not has its default. -/
theorem setting_of_gives {spelled : α → Value → Prop} {read : FromValue α} {given : Option α}
    (reads : ∀ {value a}, read value = .ok a ↔ spelled a value)
    (gives : entries.Gives key spelled given) (default : α) :
    entries.setting key default read = .ok (given.getD default) := by
  unfold setting
  cases given with
  | none =>
    rw [show entries.lookup key = none from gives]
    rfl
  | some a =>
    obtain ⟨value, found, spells⟩ := gives
    rw [found]
    exact reads.2 spells

/-- A section that is missing is read like an empty one, if an empty one means the default. -/
theorem setting_of_hasSection {read : FromValue α} {default a : α}
    (has : entries.HasSection key inner) (reads : ∀ origin, read (.table origin inner) = .ok a)
    (standard : read (.table .header []) = .ok default) :
    entries.setting key default read = .ok a := by
  unfold setting
  cases has with
  | missing absent =>
    rw [absent, ← standard]
    exact reads .header
  | table present =>
    rw [present]
    exact reads _

end Toml.Entries

/-! ## What is given -/

/-- Values for some of the settings. -/
structure GivenSettings where
  port : Option UInt16 := none
  namespaceService : Option String := none
  roleGroup : Option String := none
  serviceName : Option String := none
  podHostPrefix : Option String := none
  principalHostPrefix : Option String := none
  warehouseRoot : Option String := none
  s3Location : Option String := none
  hdfsLocation : Option String := none
  externalTables : Option Bool := none
  compressed : Option Bool := none
  logFormat : Option LogFormat := none

namespace GivenSettings

open FromValue Toml.Entries

variable {given : GivenSettings} {entries : Entries}

/-! ### Laid over other settings -/

/-- The connection's settings with what is given in its place. -/
def laidOverConnection (given : GivenSettings) (c : ConnectionDefaults) : ConnectionDefaults where
  port := given.port.getD c.port
  namespaceService := given.namespaceService.getD c.namespaceService
  roleGroup := given.roleGroup.getD c.roleGroup

/-- The settings of Kerberos with what is given in its place. -/
def laidOverKerberos (given : GivenSettings) (k : KerberosSettings) : KerberosSettings where
  serviceName := given.serviceName.getD k.serviceName
  podHostPrefix := given.podHostPrefix.getD k.podHostPrefix
  principalHostPrefix := given.principalHostPrefix.getD k.principalHostPrefix

/-- The scenarios' settings with what is given in its place. -/
def laidOverScenarios (given : GivenSettings) (s : ScenarioSettings) : ScenarioSettings where
  warehouseRoot := given.warehouseRoot.getD s.warehouseRoot
  s3Location := given.s3Location.getD s.s3Location
  hdfsLocation := given.hdfsLocation.getD s.hdfsLocation
  externalTables := given.externalTables.getD s.externalTables
  compressed := given.compressed.getD s.compressed

/-- The settings of what is recorded with what is given in its place. -/
def laidOverMonitoring (given : GivenSettings) (m : MonitoringSettings) : MonitoringSettings where
  logFormat := given.logFormat.getD m.logFormat

/-- The settings with what is given in its place. -/
def laidOver (given : GivenSettings) (s : Settings) : Settings where
  connection := given.laidOverConnection s.connection
  kerberos := given.laidOverKerberos s.kerberos
  scenarios := given.laidOverScenarios s.scenarios
  monitoring := given.laidOverMonitoring s.monitoring

/-! ### Said in a document -/

/-- The entries of the section of the connection give its settings these values. -/
structure InConnection (given : GivenSettings) (entries : Entries) : Prop where
  port : entries.Gives "port" IsPort given.port
  namespaceService : entries.Gives "namespace_service" IsText given.namespaceService
  roleGroup : entries.Gives "role_group" IsText given.roleGroup

/-- The entries of the section of Kerberos give its settings these values. -/
structure InKerberos (given : GivenSettings) (entries : Entries) : Prop where
  serviceName : entries.Gives "service_name" IsText given.serviceName
  podHostPrefix : entries.Gives "pod_host_prefix" IsText given.podHostPrefix
  principalHostPrefix : entries.Gives "principal_host_prefix" IsText given.principalHostPrefix

/-- The entries of the section of the scenarios give its settings these values. -/
structure InScenarios (given : GivenSettings) (entries : Entries) : Prop where
  warehouseRoot : entries.Gives "warehouse_root" IsText given.warehouseRoot
  s3Location : entries.Gives "s3_location" IsText given.s3Location
  hdfsLocation : entries.Gives "hdfs_location" IsText given.hdfsLocation
  externalTables : entries.Gives "external_tables" IsTruth given.externalTables
  compressed : entries.Gives "compressed" IsTruth given.compressed

/-- The entries of the section of what is recorded give its setting this value. -/
structure InMonitoring (given : GivenSettings) (entries : Entries) : Prop where
  logFormat : entries.Gives "log_format" IsLogFormat given.logFormat

/-- A document gives the settings these values, each in its section, and no setting another one.
Whatever else stands in the document and in its sections is left open. -/
structure SaidIn (given : GivenSettings) (entries : Entries) : Prop where
  connection : ∃ inner, entries.HasSection "connection" inner ∧ given.InConnection inner
  kerberos : ∃ inner, entries.HasSection "kerberos" inner ∧ given.InKerberos inner
  scenarios : ∃ inner, entries.HasSection "scenarios" inner ∧ given.InScenarios inner
  monitoring : ∃ inner, entries.HasSection "monitoring" inner ∧ given.InMonitoring inner

theorem InConnection.ofValue_eq (said : given.InConnection entries) (origin : Toml.Origin) :
    ConnectionDefaults.ofValue (.table origin entries) = .ok (given.laidOverConnection {}) := by
  change (entries.setting "port" _ .port >>= _) = _
  rw [setting_of_gives port_eq_ok_iff said.port]
  change (entries.setting "namespace_service" _ .string >>= _) = _
  rw [setting_of_gives string_eq_ok_iff said.namespaceService]
  change (entries.setting "role_group" _ .string >>= _) = _
  rw [setting_of_gives string_eq_ok_iff said.roleGroup]
  rfl

theorem InKerberos.ofValue_eq (said : given.InKerberos entries) (origin : Toml.Origin) :
    KerberosSettings.ofValue (.table origin entries) = .ok (given.laidOverKerberos {}) := by
  change (entries.setting "service_name" _ .string >>= _) = _
  rw [setting_of_gives string_eq_ok_iff said.serviceName]
  change (entries.setting "pod_host_prefix" _ .string >>= _) = _
  rw [setting_of_gives string_eq_ok_iff said.podHostPrefix]
  change (entries.setting "principal_host_prefix" _ .string >>= _) = _
  rw [setting_of_gives string_eq_ok_iff said.principalHostPrefix]
  rfl

theorem InScenarios.ofValue_eq (said : given.InScenarios entries) (origin : Toml.Origin) :
    ScenarioSettings.ofValue (.table origin entries) = .ok (given.laidOverScenarios {}) := by
  change (entries.setting "warehouse_root" _ .string >>= _) = _
  rw [setting_of_gives string_eq_ok_iff said.warehouseRoot]
  change (entries.setting "s3_location" _ .string >>= _) = _
  rw [setting_of_gives string_eq_ok_iff said.s3Location]
  change (entries.setting "hdfs_location" _ .string >>= _) = _
  rw [setting_of_gives string_eq_ok_iff said.hdfsLocation]
  change (entries.setting "external_tables" _ .boolean >>= _) = _
  rw [setting_of_gives boolean_eq_ok_iff said.externalTables]
  change (entries.setting "compressed" _ .boolean >>= _) = _
  rw [setting_of_gives boolean_eq_ok_iff said.compressed]
  rfl

theorem InMonitoring.ofValue_eq (said : given.InMonitoring entries) (origin : Toml.Origin) :
    MonitoringSettings.ofValue (.table origin entries) = .ok (given.laidOverMonitoring {}) := by
  change (entries.setting "log_format" _ .logFormat >>= _) = _
  rw [setting_of_gives logFormat_eq_ok_iff said.logFormat]
  rfl

/-- **A document is laid over the defaults**: each setting that it gives has the value given, each
other one its default. -/
theorem ofEntries_of_saidIn (said : given.SaidIn entries) :
    Settings.ofEntries entries = .ok (given.laidOver {}) := by
  obtain ⟨connection, hasConnection, inConnection⟩ := said.connection
  obtain ⟨kerberos, hasKerberos, inKerberos⟩ := said.kerberos
  obtain ⟨scenarios, hasScenarios, inScenarios⟩ := said.scenarios
  obtain ⟨monitoring, hasMonitoring, inMonitoring⟩ := said.monitoring
  change (entries.setting "connection" _ ConnectionDefaults.ofValue >>= _) = _
  rw [setting_of_hasSection hasConnection inConnection.ofValue_eq rfl]
  change (entries.setting "kerberos" _ KerberosSettings.ofValue >>= _) = _
  rw [setting_of_hasSection hasKerberos inKerberos.ofValue_eq rfl]
  change (entries.setting "scenarios" _ ScenarioSettings.ofValue >>= _) = _
  rw [setting_of_hasSection hasScenarios inScenarios.ofValue_eq rfl]
  change (entries.setting "monitoring" _ MonitoringSettings.ofValue >>= _) = _
  rw [setting_of_hasSection hasMonitoring inMonitoring.ofValue_eq rfl]
  rfl

end GivenSettings

/-! ## Files -/

namespace Settings

open Violation

/-- The settings that a file spells are returned if they are valid. -/
theorem load_of_ofEntries {files : Files} {path text : String} {bytes : Bytes} {entries : Entries}
    {s : Settings} (readable : files path = .ok bytes) (decoded : Utf8.decode bytes = .ok text)
    (parsed : Toml.parse text = .ok entries) (laid : ofEntries entries = .ok s)
    (wording : Toml.Wording) : load files path wording = s.validate.map fun _ => s := by
  have spelled : spelled text = .ok s := by
    unfold spelled
    rw [parsed]
    exact laid
  simp only [load, readable, decoded, ofText, spelled]
  cases s.validate <;> simp only [Except.map]

/-- **What a settings file comes to.**  Its document is laid over the defaults.  The settings are
returned just when they are valid, and otherwise the first condition that they break is reported.
How documents that are wrong are told makes no difference to this. -/
theorem load_eq_overlay {files : Files} {path text : String} {bytes : Bytes} {entries : Entries}
    {given : GivenSettings} (readable : files path = .ok bytes)
    (decoded : Utf8.decode bytes = .ok text) (parsed : Toml.parse text = .ok entries)
    (said : given.SaidIn entries) (wording : Toml.Wording) :
    ofEntries entries = .ok (given.laidOver {}) ∧
      (load files path wording = .ok (given.laidOver {}) ↔ (given.laidOver {}).Valid) ∧
      (¬ (given.laidOver {}).Valid → ∃ before violation after,
        inOrder = before ++ violation :: after ∧ violation.BrokenBy (given.laidOver {}) ∧
          (∀ earlier ∈ before, ¬ earlier.BrokenBy (given.laidOver {})) ∧
          load files path wording = .error (.invalid violation)) := by
  have laid := GivenSettings.ofEntries_of_saidIn said
  have loaded := load_of_ofEntries readable decoded parsed laid wording
  rw [validate_eq] at loaded
  refine ⟨laid, ?_, ?_⟩
  · rw [loaded, ← firstBroken?_eq_none_iff]
    cases (given.laidOver {}).firstBroken? <;> simp [Except.map]
  · intro invalid
    obtain ⟨violation, first⟩ : ∃ violation, (given.laidOver {}).firstBroken? = some violation :=
      Option.ne_none_iff_exists'.1 (mt firstBroken?_eq_none_iff.1 invalid)
    obtain ⟨broken, before, after, split, kept⟩ := firstBroken?_eq_some_iff.1 first
    refine ⟨before, violation, after, split, broken, kept, ?_⟩
    rw [loaded, first]
    rfl

set_option maxRecDepth 4096 in
/-- A file with a section in part, an empty one and one that is missing, and with a key and a
section that mean nothing. -/
theorem load_eq_overlay_of_partial_file :
    let text := "[connection]\nport = 9084\nlazy = true\n\n[kerberos]\n\n" ++
      "[monitoring]\nlog_format = \"json\"\n\n[extra]\nport = 0\n"
    load (fun _ => .ok (Utf8.encode text)) "hms.toml" =
      .ok { connection := { port := 9084 }, monitoring := { logFormat := .json } } := by
  intro text
  have parsed : Toml.parse text = .ok
      [("connection", .table .header [("port", .integer 9084), ("lazy", .boolean true)]),
        ("kerberos", .table .header []),
        ("monitoring", .table .header [("log_format", .string "json")]),
        ("extra", .table .header [("port", .integer 0)])] := by
    cbv
  have said : ({ port := some 9084, logFormat := some .json } : GivenSettings).SaidIn
      [("connection", .table .header [("port", .integer 9084), ("lazy", .boolean true)]),
        ("kerberos", .table .header []),
        ("monitoring", .table .header [("log_format", .string "json")]),
        ("extra", .table .header [("port", .integer 0)])] :=
    { connection := ⟨_, .table rfl, ⟨_, rfl, rfl⟩, rfl, rfl⟩
      kerberos := ⟨_, .table rfl, rfl, rfl, rfl⟩
      scenarios := ⟨_, .missing rfl, rfl, rfl, rfl, rfl, rfl⟩
      monitoring := ⟨_, .table rfl, ⟨_, rfl, .text⟩⟩ }
  have valid :
      (GivenSettings.laidOver { port := some 9084, logFormat := some .json } {}).Valid := by
    constructor <;> decide
  exact (load_eq_overlay rfl (Utf8.decode_encode text) parsed said .brief).2.1.2 valid

end Settings

end MetastoreProbe
