import MetastoreProbe.Schema

/-!
# Tables

A `Table` is what the metastore is asked to create: names, location, columns and the storage
format.  `Table.smoke` is the table of every storage scenario, one column stored as Parquet.
-/

namespace MetastoreProbe

/-- Whether the metastore owns the data of a table or only refers to it. -/
inductive TableKind
  | managed
  | external
  deriving DecidableEq, Repr

/-- The metastore's word for a kind of table. -/
def TableKind.tableType : TableKind → String
  | .managed => "MANAGED_TABLE"
  | .external => "EXTERNAL_TABLE"

/-- A table to create. -/
structure Table where
  database : String
  name : String
  /-- Where the data lies: a local path, or a location in a store. -/
  location : String
  columns : List Column
  serializationLib : String
  inputFormat : String
  outputFormat : String
  compressed : Bool
  kind : TableKind
  deriving DecidableEq, Repr

namespace Table

/-- The classes that read and write Parquet. -/
def parquetSerDe : String := "org.apache.hadoop.hive.ql.io.parquet.serde.ParquetHiveSerDe"

/-- The class that reads Parquet files. -/
def parquetInput : String := "org.apache.hadoop.hive.ql.io.parquet.MapredParquetInputFormat"

/-- The class that writes Parquet files. -/
def parquetOutput : String := "org.apache.hadoop.hive.ql.io.parquet.MapredParquetOutputFormat"

/-- The one-column Parquet table of the storage scenarios: managed and not compressed. -/
def smoke (database name location : String) : Table where
  database := database
  name := name
  location := location
  columns := [Column.id]
  serializationLib := parquetSerDe
  inputFormat := parquetInput
  outputFormat := parquetOutput
  compressed := false
  kind := .managed

/-- The name of a table within the metastore. -/
def qualifiedName (t : Table) : String :=
  s!"{t.database}.{t.name}"

/-- The schema that the metastore is to report for a table. -/
def schema (t : Table) : Schema :=
  ⟨t.columns⟩

end Table

end MetastoreProbe
