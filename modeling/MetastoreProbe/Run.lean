import MetastoreProbe.Scenario

/-!
# Runs

A run is everything that one execution of the checks needs: where the metastore is, which database
to use, and which checks to make.
-/

namespace MetastoreProbe

/-- Where the metastore is, and how to authenticate to it. -/
structure Target where
  host : String
  port : UInt16
  /-- Without these the connection is a plain one. -/
  kerberos : Option KerberosSettings := none
  deriving DecidableEq, Repr

/-- The address of a target in messages. -/
def Target.address (t : Target) : String :=
  s!"{t.host}:{t.port.toNat}"

/-- A group of checks. -/
inductive Suite
  /-- Create a table per scenario and compare its schema. -/
  | schema (scenarios : List Scenario)
  /-- Expect the authorization layer to refuse a database. -/
  | authorization
  deriving DecidableEq, Repr

/-- One execution of the checks. -/
structure Run where
  target : Target
  database : String
  suite : Suite
  scenarios : ScenarioSettings
  deriving DecidableEq, Repr

/-- The database of the schema suite where none is named. -/
def defaultSchemaDatabase : String := "test_metastore"

/-- The database that the authorization layer is to refuse where none is named. -/
def defaultDeniedDatabase : String := "db_not_allowed"

end MetastoreProbe
