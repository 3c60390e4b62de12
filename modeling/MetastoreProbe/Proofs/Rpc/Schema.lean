import MetastoreProbe.Proofs.Rpc.Faults
import MetastoreProbe.Proofs.Rpc.Request

/-!
# Columns, there and back

Columns are written in requests and read in replies, by two programs that have nothing in common but
the ids of the parts.  `Reply.readSchema_columnsField` says that they agree: a server that sends the
columns of a request back as the value of a schema, byte for byte, is understood to say just those
columns.
-/

namespace MetastoreProbe

open WireValue (sizeLimit)

namespace Reply

open Reader

/-- The parts of a column are the texts under their ids. -/
theorem columnOf_column (c : Column) : columnOf (PlainLink.column c) = c := rfl

theorem isRecord_column {c : Column} (short : ∀ s ∈ c.texts, (Utf8.encode s).length < sizeLimit) :
    (PlainLink.column c).IsRecord := by
  refine ⟨_, rfl, fun f mem => ?_⟩
  have text {s : String} (own : s ∈ c.texts) : (WireValue.string s).Fits (63 + 1) :=
    .string _ (short s own)
  simp only [List.mem_cons, List.not_mem_nil, or_false] at mem
  rcases mem with rfl | rfl | rfl <;> exact text (by simp [Column.texts])

theorem isRecordList_columns {columns : List Column} (few : columns.length < sizeLimit)
    (short : ∀ c ∈ columns, ∀ s ∈ c.texts, (Utf8.encode s).length < sizeLimit) :
    (WireValue.list .struct (columns.map PlainLink.column)).IsRecordList := by
  refine ⟨_, rfl, by rwa [List.length_map], fun e mem => ?_⟩
  obtain ⟨c, own, rfl⟩ := List.mem_map.1 mem
  exact isRecord_column (short c own)

theorem wellTyped_value {method : Method} {IsValue : WireValue → Prop} {v : WireValue}
    (isValue : IsValue v) : WellTyped method IsValue (0, v) := by
  have zero : (0 : Int16).toInt = 0 := rfl
  refine ⟨fun _ => isValue, fun declared => ?_, fun other => ?_⟩
  · simp only [zero] at declared
    omega
  · simp only [zero] at other
    omega

/-- A reply whose one field holds a list of structs is decoded to the columns that they describe. -/
theorem readSchema_list (sequence : Int32) {v : WireValue} (records : v.IsRecordList) :
    readSchema sequence (message .getSchema sequence [(0, v)]) =
      .ok (.value ⟨columnsOf v⟩) [] := by
  have wellTyped : ∀ f ∈ [((0 : Int16), v)], WellTyped .getSchema WireValue.IsRecordList f :=
    List.forall_mem_singleton.2 (wellTyped_value records)
  have decoded := read_message (fun v records => readSchemaValue_encode records) wellTyped sequence
  rw [readSchema, Scan.bind_apply_of_ok decoded]
  rfl

/-- A reply whose one field holds columns is decoded to them. -/
theorem readSchema_columns (sequence : Int32) {columns : List Column}
    (few : columns.length < sizeLimit)
    (short : ∀ c ∈ columns, ∀ s ∈ c.texts, (Utf8.encode s).length < sizeLimit) :
    readSchema sequence
        (message .getSchema sequence [(0, .list .struct (columns.map PlainLink.column))]) =
      .ok (.value ⟨columns⟩) [] := by
  have kept : columnsOf (.list .struct (columns.map PlainLink.column)) = columns := by
    have each : columnOf ∘ PlainLink.column = id := funext columnOf_column
    rw [columnsOf, WireValue.elements, List.map_map, each, List.map_id]
  have decoded := readSchema_list sequence (isRecordList_columns few short)
  rwa [kept] at decoded

/-- **Columns are read in replies as they are written in requests**: all of them, in their order,
and nothing but their bytes is taken, whatever follows. -/
theorem readSchema_columnsField (sequence : Int32) {columns : List Column}
    (few : columns.length < sizeLimit)
    (short : ∀ c ∈ columns, ∀ s ∈ c.texts, (Utf8.encode s).length < sizeLimit) (rest : Bytes) :
    let reply := Writer.messageHead .reply "get_schema" sequence ++
      Writer.struct [Request.columnsField 0 columns]
    readSchema sequence (reply ++ rest) = .ok (.value ⟨columns⟩) rest ∧
      decodeSchema sequence (reply ++ rest) = .ok (.value ⟨columns⟩) := by
  intro reply
  have written : reply =
      message .getSchema sequence [(0, .list .struct (columns.map PlainLink.column))] := by
    rw [message, WireValue.encode_struct, List.map_cons, List.map_nil, Request.field_columns]
    rfl
  -- Nothing is left of the reply alone, so what is taken before any rest is the whole of it.
  obtain ⟨taken, whole, again⟩ :=
    (accounts_readSchema sequence _).ok (readSchema_columns sequence few short)
  rw [List.append_nil, ← written] at whole
  have decoded := again rest
  rw [← whole] at decoded
  exact ⟨decoded, Scan.valueOf_eq_ok_iff.2 ⟨rest, decoded⟩⟩

/-- Empty parts and a text of several bytes, with a stop tag behind the reply. -/
theorem readSchema_columnsField_of_empty_parts :
    let columns : List Column := [⟨"", "", ""⟩, ⟨"ü", "string", ""⟩]
    readSchema 7 (Writer.messageHead .reply "get_schema" 7 ++
        Writer.struct [Request.columnsField 0 columns] ++ [0]) = .ok (.value ⟨columns⟩) [0] := by
  intro columns
  have short : ∀ c ∈ columns, ∀ s ∈ c.texts, (Utf8.encode s).length < sizeLimit := by decide
  exact (readSchema_columnsField 7 (by decide) short [0]).1

end Reply

end MetastoreProbe
