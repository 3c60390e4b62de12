import MetastoreProbe.Client.Plain
import MetastoreProbe.Client.Sasl
import MetastoreProbe.Proofs.Rpc.Schema

/-!
# Tables and columns as records

The metastore's interface gives a table as a record of records, in which each part has a name and
an id and can be left out.  `TableRecord.ofTable` is the record of a table: what it sets, it sets by
name.  The tree of a record (`TableRecord.tree`) puts the parts that are set under their ids, and
what is left out is not there.

The two clients make a table independently of each other.  The plain client hands its link a tree
of arguments, and the client over frames writes bytes field by field.  `TableRecord.carried_alike`
says that both are the record of the table, and that replies are read alike as well: a column of
which any parts are missing is the same column to both.
-/

namespace MetastoreProbe

open WireValue (sizeLimit)

/-! ## Records -/

/-- The struct of the parts that are set, under their ids. -/
def WireValue.ofParts (parts : List (Int16 × Option WireValue)) : WireValue :=
  .struct (parts.filterMap fun (id, part) => part.map fun v => (id, v))

/-- The column as a tree. -/
def FieldRecord.tree (f : FieldRecord) : WireValue :=
  .ofParts
    [(1, f.name.map .string), (2, f.type.map .string), (3, f.comment.map .string)]

/-- How the rows of a table are written. -/
structure SerializerRecord where
  name : Option String := none
  serializationLib : Option String := none
  deriving DecidableEq, Repr

/-- The serializer as a tree. -/
def SerializerRecord.tree (r : SerializerRecord) : WireValue :=
  .ofParts [(1, r.name.map .string), (2, r.serializationLib.map .string)]

/-- How and where the data of a table is stored. -/
structure StorageRecord where
  columns : Option (List FieldRecord) := none
  location : Option String := none
  inputFormat : Option String := none
  outputFormat : Option String := none
  compressed : Option Bool := none
  buckets : Option Int32 := none
  serializer : Option SerializerRecord := none
  storedAsSubdirectories : Option Bool := none
  deriving DecidableEq, Repr

/-- A list of columns as a tree. -/
def FieldRecord.list (fields : List FieldRecord) : WireValue :=
  .list .struct (fields.map tree)

/-- The storage as a tree. -/
def StorageRecord.tree (r : StorageRecord) : WireValue :=
  .ofParts
    [(1, r.columns.map FieldRecord.list),
      (2, r.location.map .string),
      (3, r.inputFormat.map .string),
      (4, r.outputFormat.map .string),
      (5, r.compressed.map .bool),
      (6, r.buckets.map .i32),
      (7, r.serializer.map SerializerRecord.tree),
      (12, r.storedAsSubdirectories.map .bool)]

/-- A table of the metastore's interface. -/
structure TableRecord where
  name : Option String := none
  database : Option String := none
  createTime : Option Int32 := none
  lastAccessTime : Option Int32 := none
  retention : Option Int32 := none
  storage : Option StorageRecord := none
  partitionKeys : Option (List FieldRecord) := none
  /-- The parameters with their values. -/
  parameters : Option (List (String × String)) := none
  tableType : Option String := none
  deriving DecidableEq, Repr

namespace TableRecord

/-- Parameters as a tree. -/
def parametersTree (entries : List (String × String)) : WireValue :=
  .map .string .string (entries.map fun (key, value) => (.string key, .string value))

/-- The table as a tree. -/
def tree (r : TableRecord) : WireValue :=
  .ofParts
    [(1, r.name.map .string),
      (2, r.database.map .string),
      (4, r.createTime.map .i32),
      (5, r.lastAccessTime.map .i32),
      (6, r.retention.map .i32),
      (7, r.storage.map StorageRecord.tree),
      (8, r.partitionKeys.map FieldRecord.list),
      (9, r.parameters.map parametersTree),
      (12, r.tableType.map .string)]

end TableRecord

/-- The record of a column, with all its parts. -/
def FieldRecord.ofColumn (c : Column) : FieldRecord where
  name := c.name
  type := c.type
  comment := c.comment

/-- The record of how a table is stored: the columns in their order, one class that writes the
rows, and no buckets. -/
def StorageRecord.ofTable (t : Table) : StorageRecord where
  columns := t.columns.map FieldRecord.ofColumn
  location := t.location
  inputFormat := t.inputFormat
  outputFormat := t.outputFormat
  compressed := t.compressed
  buckets := some (-1)
  serializer := some { serializationLib := t.serializationLib }
  storedAsSubdirectories := false

/-- The record of a table that is created at a time.  A managed table has no parameters, and an
external one has the parameter that says so. -/
def TableRecord.ofTable (t : Table) (createTime : Int32) : TableRecord where
  name := t.name
  database := t.database
  createTime := createTime
  lastAccessTime := some 0
  retention := some 0
  storage := StorageRecord.ofTable t
  partitionKeys := some []
  parameters :=
    match t.kind with
    | .managed => none
    | .external => some [("EXTERNAL", "TRUE")]
  tableType := t.kind.tableType

/-! ## Tables -/

namespace FieldRecord

theorem tree_ofColumn (c : Column) : (ofColumn c).tree = PlainLink.column c := rfl

theorem list_ofColumn (columns : List Column) :
    list (columns.map ofColumn) = .list .struct (columns.map PlainLink.column) := by
  have each : tree ∘ ofColumn = PlainLink.column := funext tree_ofColumn
  rw [list, List.map_map, each]

end FieldRecord

theorem StorageRecord.tree_ofTable (t : Table) : (ofTable t).tree = PlainLink.storage t := by
  simp [tree, ofTable, WireValue.ofParts, PlainLink.storage, FieldRecord.list_ofColumn,
    SerializerRecord.tree]

namespace TableRecord

/-- **The plain client hands its link the record of a table.** -/
theorem tree_ofTable (t : Table) (createTime : Int32) :
    (ofTable t createTime).tree = PlainLink.table t createTime := by
  unfold PlainLink.table
  cases kind : t.kind <;>
    simp [tree, ofTable, WireValue.ofParts, StorageRecord.tree_ofTable, kind,
      PlainLink.parameters, FieldRecord.list, parametersTree]

/-- **The client over frames writes the record of a table**: that is what is read back. -/
theorem valueWithin_table {t : Table} (few : t.columns.length < sizeLimit)
    (short : ∀ s ∈ t.texts, (Utf8.encode s).length < sizeLimit) (createTime : Int32)
    (rest : Bytes) :
    Reader.valueWithin Reader.maxSkipDepth .struct
        (Writer.struct (Request.table t createTime) ++ rest) =
      .ok (ofTable t createTime).tree rest := by
  have fits : (PlainLink.table t createTime).Fits (59 + 5) :=
    Request.fits_table few short createTime
  have read := Reader.valueWithin_encode fits rest
  rw [Request.encode_table] at read
  rw [tree_ofTable]
  exact read

end TableRecord

/-! ## Columns -/

theorem WireValue.isRecord_ofParts {parts : List (Int16 × Option WireValue)}
    (canSkip : ∀ part ∈ parts, ∀ v ∈ part.2, v.CanSkip) : (ofParts parts).IsRecord := by
  refine ⟨_, rfl, fun f mem => ?_⟩
  obtain ⟨part, own, set⟩ := List.mem_filterMap.1 mem
  obtain ⟨v, there, rfl⟩ := Option.map_eq_some_iff.1 set
  exact canSkip part own v there

namespace FieldRecord

open Reply

/-- The texts of the parts that are there. -/
def texts (f : FieldRecord) : List String :=
  f.name.toList ++ f.type.toList ++ f.comment.toList

/-- A part that is missing is an empty text. -/
theorem columnOf_tree (f : FieldRecord) : columnOf f.tree = f.column := by
  obtain ⟨name, type, comment⟩ := f
  cases name <;> cases type <;> cases comment <;> rfl

theorem isRecord_tree {f : FieldRecord}
    (short : ∀ s ∈ f.texts, (Utf8.encode s).length < sizeLimit) : f.tree.IsRecord := by
  have text {part : Option String} (own : ∀ s ∈ part, s ∈ f.texts) :
      ∀ v ∈ part.map WireValue.string, v.CanSkip := by
    intro v mem
    obtain ⟨s, there, rfl⟩ := Option.map_eq_some_iff.1 mem
    exact .string _ (short s (own s there))
  refine WireValue.isRecord_ofParts fun part mem => ?_
  simp only [List.mem_cons, List.not_mem_nil, or_false] at mem
  rcases mem with rfl | rfl | rfl <;> refine text fun s there => ?_ <;>
    simp [texts, Option.mem_def.1 there]

theorem isRecordList_list {fields : List FieldRecord} (few : fields.length < sizeLimit)
    (short : ∀ f ∈ fields, ∀ s ∈ f.texts, (Utf8.encode s).length < sizeLimit) :
    (list fields).IsRecordList := by
  refine ⟨_, rfl, by rwa [List.length_map], fun e mem => ?_⟩
  obtain ⟨f, own, rfl⟩ := List.mem_map.1 mem
  exact isRecord_tree (short f own)

theorem columnsOf_list (fields : List FieldRecord) :
    columnsOf (list fields) = fields.map column := by
  have each : columnOf ∘ tree = column := funext columnOf_tree
  rw [columnsOf, list, WireValue.elements, List.map_map, each]

/-- **Columns of which parts are missing are read as the columns that they describe.** -/
theorem readColumns_list {fields : List FieldRecord} (few : fields.length < sizeLimit)
    (short : ∀ f ∈ fields, ∀ s ∈ f.texts, (Utf8.encode s).length < sizeLimit) (rest : Bytes) :
    readColumns ((list fields).encode ++ rest) = .ok (fields.map column) rest := by
  have read := readSchemaValue_encode (isRecordList_list few short) rest
  have isList : readSchemaValue (list fields).type = readColumns := if_pos rfl
  rwa [isList, columnsOf_list] at read

/-- A reply with columns comes to the same over frames as their delivery by a link. -/
theorem schemaResult_list (sequence : Int32) (exceptions : ExceptionTexts)
    {fields : List FieldRecord} (few : fields.length < sizeLimit)
    (short : ∀ f ∈ fields, ∀ s ∈ f.texts, (Utf8.encode s).length < sizeLimit) :
    SaslClient.schemaResult sequence (message .getSchema sequence [(0, list fields)]) =
      PlainClient.schemaOutcome exceptions (.value fields) := by
  have read := readSchema_list sequence (isRecordList_list few short)
  rw [columnsOf_list] at read
  have decoded : decodeSchema sequence (message .getSchema sequence [(0, list fields)]) =
      .ok (.value ⟨fields.map column⟩) := Scan.valueOf_eq_ok_iff.2 ⟨[], read⟩
  rw [SaslClient.schemaResult, decoded]
  rfl

end FieldRecord

/-! ## Both transports -/

/-- **The two transports carry the same data.**  What the plain client hands its link for a table,
and what is read back from the bytes that are written over frames, is the record of the table: the
parts that it sets, under their ids, and no others.  Columns of which any parts are missing are read
alike, on their own and as the value of a reply. -/
theorem TableRecord.carried_alike {t : Table} (few : t.columns.length < sizeLimit)
    (short : ∀ s ∈ t.texts, (Utf8.encode s).length < sizeLimit) (createTime : Int32)
    {fields : List FieldRecord} (fewFields : fields.length < sizeLimit)
    (shortFields : ∀ f ∈ fields, ∀ s ∈ f.texts, (Utf8.encode s).length < sizeLimit) :
    PlainLink.table t createTime = (ofTable t createTime).tree ∧
      (∀ rest, Reader.valueWithin Reader.maxSkipDepth .struct
          (Writer.struct (Request.table t createTime) ++ rest) =
        .ok (ofTable t createTime).tree rest) ∧
      (∀ rest, Reply.readColumns ((FieldRecord.list fields).encode ++ rest) =
        .ok (fields.map FieldRecord.column) rest) ∧
      ∀ sequence exceptions, SaslClient.schemaResult sequence
          (Reply.message .getSchema sequence [(0, FieldRecord.list fields)]) =
        PlainClient.schemaOutcome exceptions (.value fields) := by
  refine ⟨(tree_ofTable t createTime).symm, ?_, ?_, ?_⟩
  · exact fun rest => valueWithin_table few short createTime rest
  · exact fun rest => FieldRecord.readColumns_list fewFields shortFields rest
  · intro sequence exceptions
    exact FieldRecord.schemaResult_list sequence exceptions fewFields shortFields

/-- An external table with two columns, and columns that lack one part each. -/
theorem TableRecord.carried_alike_of_missing_parts :
    let t : Table :=
      ⟨"d", "t", "s3a://b/", [⟨"a", "int", ""⟩, ⟨"ü", "string", "c"⟩], "l", "i", "o", true,
        .external⟩
    let fields : List FieldRecord :=
      [{ type := "int", comment := "c" }, { name := "b", comment := "" },
        { name := "c", type := "d" }]
    Reader.valueWithin Reader.maxSkipDepth .struct (Writer.struct (Request.table t 7)) =
        .ok (PlainLink.table t 7) [] ∧
      Reply.readColumns (FieldRecord.list fields).encode =
        .ok [⟨"", "int", "c"⟩, ⟨"b", "", ""⟩, ⟨"c", "d", ""⟩] [] := by
  intro t fields
  have short : ∀ s ∈ t.texts, (Utf8.encode s).length < sizeLimit := by decide
  have shortFields : ∀ f ∈ fields, ∀ s ∈ f.texts, (Utf8.encode s).length < sizeLimit := by decide
  obtain ⟨handed, written, read, -⟩ :=
    carried_alike (t := t) (by decide) short 7 (by decide) shortFields
  refine ⟨?_, ?_⟩
  · rw [handed, ← written [], List.append_nil]
  · rw [← List.append_nil (FieldRecord.list fields).encode]
    exact read []

end MetastoreProbe
