import MetastoreProbe.Error

/-!
# Settings

What a settings file can say, in four sections.  The default of a setting is the default of its
field, so a section that is left out and a section that is empty mean the same.

`ConnectionDefaults.hostForNamespace` derives the host of the first metastore pod from a
namespace, and `KerberosSettings.principalHost` maps the host of a pod to the host that the
metastore's Kerberos principal names.
-/

namespace MetastoreProbe

/-- What holds for a connection unless the command line says otherwise. -/
structure ConnectionDefaults where
  port : UInt16 := 9083
  /-- The service from which the host of a pod is derived. -/
  namespaceService : String := "hive-postgres-s3-metastore"
  /-- The role group from which the host of a pod is derived. -/
  roleGroup : String := "default"
  deriving DecidableEq, Repr, Inhabited

/-- The host of the first metastore pod in a namespace. -/
def ConnectionDefaults.hostForNamespace (c : ConnectionDefaults) (space : String) : String :=
  let service := s!"{c.namespaceService}-{c.roleGroup}"
  s!"{service}-0.{service}.{space}.svc.cluster.local"

/-- How the metastore's Kerberos principal is named. -/
structure KerberosSettings where
  /-- The first component of the principal. -/
  serviceName : String := "hive"
  /-- The part of a pod's host that the principal replaces. -/
  podHostPrefix : String := "hive-metastore-default-0.hive-metastore-default"
  /-- What the principal has in its place. -/
  principalHostPrefix : String := "hive"
  deriving DecidableEq, Repr, Inhabited

namespace KerberosSettings

/-- The host that the principal of the metastore on `host` names. -/
def principalHost (k : KerberosSettings) (host : String) : String :=
  if k.podHostPrefix.isEmpty then host
  else Text.replaceAll host k.podHostPrefix k.principalHostPrefix

/-- The principal as a keytab holds it. -/
def servicePrincipal (k : KerberosSettings) (host : String) : String :=
  s!"{k.serviceName}/{k.principalHost host}"

/-- The host-based service name under which the principal is asked for. -/
def hostBasedService (k : KerberosSettings) (host : String) : String :=
  s!"{k.serviceName}@{k.principalHost host}"

end KerberosSettings

/-- Where and how the storage scenarios create their tables. -/
structure ScenarioSettings where
  /-- The directory under which local tables are placed. -/
  warehouseRoot : String := "/stackable/warehouse"
  s3Location : String := "s3a://hive/"
  hdfsLocation : String := "hdfs://hdfs/access-hive/hive"
  /-- Whether tables are created as external ones. -/
  externalTables : Bool := false
  /-- Whether tables are marked as compressed. -/
  compressed : Bool := false
  deriving DecidableEq, Repr, Inhabited

/-- The form of log lines. -/
inductive LogFormat
  | text
  | json
  deriving DecidableEq, Repr, Inhabited

namespace LogFormat

/-- The name of a log format. -/
def name : LogFormat → String
  | text => "text"
  | json => "json"

/-- The log format that a word names, its letters in either case. -/
def parse (word : String) : Except ConfigFault LogFormat :=
  let lowered := Text.lowerAscii word
  if lowered = "text" then .ok text
  else if lowered = "json" then .ok json
  else .error (.unknownLogFormat lowered)

end LogFormat

/-- What is recorded about a run. -/
structure MonitoringSettings where
  logFormat : LogFormat := .text
  deriving DecidableEq, Repr, Inhabited

/-- The settings of the program. -/
structure Settings where
  connection : ConnectionDefaults := {}
  kerberos : KerberosSettings := {}
  scenarios : ScenarioSettings := {}
  monitoring : MonitoringSettings := {}
  deriving DecidableEq, Repr, Inhabited

/-! ## Validity -/

/-- The locations of the storage scenarios, under the names of their settings. -/
def ScenarioSettings.locations (s : ScenarioSettings) : List (String × String) :=
  [("warehouse_root", s.warehouseRoot), ("s3_location", s.s3Location),
    ("hdfs_location", s.hdfsLocation)]

namespace Settings

/-- The conditions that the settings break, in the order in which they are reported. -/
def violations (s : Settings) : List Violation :=
  (if s.connection.port = 0 then [.portIsZero] else []) ++
  (if s.connection.namespaceService.isEmpty then [.namespaceServiceEmpty] else []) ++
  (if s.kerberos.serviceName.isEmpty then [.kerberosServiceEmpty] else []) ++
  s.scenarios.locations.filterMap
    (fun (key, location) => if location.isEmpty then some (.locationEmpty key) else none)

/-- Settings pass if they break no condition; otherwise the first that they break is reported. -/
def validate (s : Settings) : Except ConfigFault Unit :=
  match s.violations with
  | [] => .ok ()
  | violation :: _ => .error (.invalid violation)

end Settings

end MetastoreProbe
