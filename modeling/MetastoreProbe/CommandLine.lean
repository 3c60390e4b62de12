import MetastoreProbe.Run

/-!
# What a command line asks for

A command line names a command and, for the commands that check a metastore, says where it is.
Whatever it leaves open is filled in from the settings (`Command.run`): the port, the names from
which a host is derived, the Kerberos principal, the locations.  `validate` checks the settings
and nothing else, so it has no run.
-/

namespace MetastoreProbe

/-- Where a metastore is looked for. -/
inductive Place
  /-- On a host. -/
  | host (name : String)
  /-- In a namespace, on the host of its first metastore pod. -/
  | space (name : String)
  deriving DecidableEq, Repr

/-- What a command line says about the metastore to check. -/
structure Access where
  place : Place
  port : Option UInt16 := none
  database : Option String := none
  kerberos : Bool := false
  deriving DecidableEq, Repr

/-- What the program is to do. -/
inductive Command
  /-- Check the storage scenarios; of none named, the default ones. -/
  | smoke (access : Access) (scenarios : List Scenario)
  /-- Check that a database is denied. -/
  | authz (access : Access)
  /-- Check the settings. -/
  | validate
  deriving DecidableEq, Repr

/-- Everything that a command line says. -/
structure CommandLine where
  command : Command
  /-- The path of the settings file. -/
  config : Option String := none
  /-- How often more detail in the log was asked for. -/
  verbosity : Nat := 0
  /-- The log format, before the one of the settings. -/
  logFormat : Option LogFormat := none
  deriving DecidableEq, Repr

/-! ## Filling in from the settings -/

/-- The host of a place. -/
def Place.hostIn (defaults : ConnectionDefaults) : Place → String
  | host name => name
  | space name => defaults.hostForNamespace name

/-- The target of an access. -/
def Access.target (access : Access) (settings : Settings) : Target where
  host := access.place.hostIn settings.connection
  port := access.port.getD settings.connection.port
  kerberos := if access.kerberos then some settings.kerberos else none

namespace Command

/-- The run of a command, if it checks a metastore. -/
def run (settings : Settings) : Command → Option Run
  | smoke access scenarios =>
    some
      { target := access.target settings
        database := access.database.getD defaultSchemaDatabase
        suite :=
          .schema (if scenarios.isEmpty then Scenario.defaults access.kerberos else scenarios)
        scenarios := settings.scenarios }
  | authz access =>
    some
      { target := access.target settings
        database := access.database.getD defaultDeniedDatabase
        suite := .authorization
        scenarios := settings.scenarios }
  | validate => none

end Command

end MetastoreProbe
