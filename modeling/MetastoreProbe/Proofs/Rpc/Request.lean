import MetastoreProbe.Client.Plain
import MetastoreProbe.Proofs.Rpc.Reply
import MetastoreProbe.Proofs.Wire.Tree
import MetastoreProbe.Rpc.Request

/-!
# What a request says

The arguments of a request are one struct, and `Request.tree` is that struct as a tree.  The writer
puts the bytes together field by field without ever seeing the tree, so that `Request.encode_tree`
is worth a proof: the bytes are those of the tree.

What is known of trees then holds of requests.  A request can be skipped by whoever only looks at
its head, and its bytes say what is asked for: no request has bytes that begin those of another one
(`Request.encode_faithful`).
-/

namespace MetastoreProbe

open WireValue (sizeLimit)

/-! ## Texts -/

/-- The texts of a column. -/
def Column.texts (c : Column) : List String := [c.name, c.type, c.comment]

/-- The texts that a table is sent with, those of its kind apart. -/
def Table.texts (t : Table) : List String :=
  [t.database, t.name, t.location, t.inputFormat, t.outputFormat, t.serializationLib] ++
    t.columns.flatMap Column.texts

namespace Request

/-- The texts of a request. -/
def texts : Request → List String
  | createDatabase name => [name]
  | createTable t _ => t.texts
  | getSchema database name => [database, name]

/-- The columns of a request. -/
def columns : Request → List Column
  | createTable t _ => t.columns
  | createDatabase _ | getSchema _ _ => []

/-- The sizes of a request can be told in a message. -/
structure Fits (request : Request) : Prop where
  texts : ∀ s ∈ request.texts, (Utf8.encode s).length < sizeLimit
  columns : request.columns.length < sizeLimit

/-- The arguments of a request as a tree. -/
def tree : Request → WireValue
  | createDatabase name => .struct [(1, .struct [(1, .string name)])]
  | createTable t createTime => .struct [(1, PlainLink.table t createTime)]
  | getSchema database name => .struct [(1, .string database), (2, .string name)]

/-! ## The bytes of a tree -/

theorem field_string (id : Int16) (s : String) :
    Writer.field (WireValue.string s).type id (WireValue.string s).encode =
      Writer.stringField id s := by
  rw [WireValue.encode]
  rfl

theorem field_i32 (id : Int16) (n : Int32) :
    Writer.field (WireValue.i32 n).type id (WireValue.i32 n).encode = Writer.i32Field id n := by
  rw [WireValue.encode]
  rfl

theorem field_bool (id : Int16) (b : Bool) :
    Writer.field (WireValue.bool b).type id (WireValue.bool b).encode = Writer.boolField id b := by
  rw [WireValue.encode]
  rfl

theorem encode_column (c : Column) : (PlainLink.column c).encode = column c := by
  simp only [PlainLink.column, WireValue.encode_struct, List.map_cons, List.map_nil, field_string,
    column]

theorem field_columns (id : Int16) (columns : List Column) :
    Writer.field (WireValue.list .struct (columns.map PlainLink.column)).type id
        (WireValue.list .struct (columns.map PlainLink.column)).encode =
      columnsField id columns := by
  have each : WireValue.encode ∘ PlainLink.column = column := funext encode_column
  rw [WireValue.encode_list, List.map_map, each]
  rfl

theorem encode_storage (t : Table) : (PlainLink.storage t).encode = Writer.struct (storage t) := by
  simp only [PlainLink.storage, storage, WireValue.encode_struct, List.map_cons, List.map_nil,
    field_string, field_i32, field_bool, field_columns]
  rfl

theorem map_parameters (kind : TableKind) :
    (PlainLink.parameters kind).map (fun f => Writer.field f.2.type f.1 f.2.encode) =
      parameters kind := by
  cases kind with
  | managed => rfl
  | external =>
    simp only [PlainLink.parameters, parameters, List.map_cons, List.map_nil,
      WireValue.encode_map, WireValue.encode]
    rfl

theorem encode_table (t : Table) (createTime : Int32) :
    (PlainLink.table t createTime).encode = Writer.struct (table t createTime) := by
  have partitions := field_columns 8 []
  rw [List.map_nil] at partitions
  simp only [PlainLink.table, table, WireValue.encode_struct, List.map_append, List.map_cons,
    List.map_nil, map_parameters, field_string, field_i32, encode_storage, partitions]
  rfl

/-- **The arguments of a request are written as the tree that they are.** -/
theorem encode_tree (request : Request) :
    request.tree.encode = Writer.struct request.arguments := by
  cases request with
  | createDatabase name =>
    simp only [tree, arguments, WireValue.encode_struct, List.map_cons, List.map_nil, field_string]
    rfl
  | createTable t createTime =>
    simp only [tree, arguments, WireValue.encode_struct, List.map_cons, List.map_nil]
    rw [encode_table]
    rfl
  | getSchema database name =>
    simp only [tree, arguments, WireValue.encode_struct, List.map_cons, List.map_nil, field_string]

/-! ## Trees that fit -/

section Sizes

variable {depth : Nat}

theorem fits_column {c : Column} (short : ∀ s ∈ c.texts, (Utf8.encode s).length < sizeLimit) :
    (PlainLink.column c).Fits (depth + 2) := by
  refine .struct fun f mem => ?_
  simp only [List.mem_cons, List.not_mem_nil, or_false] at mem
  rcases mem with rfl | rfl | rfl <;> exact .string depth (short _ (by simp [Column.texts]))

theorem fits_columns {columns : List Column} (few : columns.length < sizeLimit)
    (short : ∀ c ∈ columns, ∀ s ∈ c.texts, (Utf8.encode s).length < sizeLimit) :
    (WireValue.list .struct (columns.map PlainLink.column)).Fits (depth + 3) := by
  refine .list (by rwa [List.length_map]) ?_ ?_
  · rintro _ mem
    obtain ⟨c, -, rfl⟩ := List.mem_map.1 mem
    rfl
  · rintro _ mem
    obtain ⟨c, own, rfl⟩ := List.mem_map.1 mem
    exact fits_column (short c own)

theorem fits_storage {t : Table} (few : t.columns.length < sizeLimit)
    (short : ∀ s ∈ t.texts, (Utf8.encode s).length < sizeLimit) :
    (PlainLink.storage t).Fits (depth + 4) := by
  have columns : (WireValue.list .struct (t.columns.map PlainLink.column)).Fits (depth + 3) :=
    fits_columns few fun c mem s text =>
      short s (List.mem_append_right _ (List.mem_flatMap.2 ⟨c, mem, text⟩))
  have serializer : (WireValue.struct [(2, .string t.serializationLib)]).Fits (depth + 3) :=
    .struct (List.forall_mem_singleton.2 (.string _ (short _ (by simp [Table.texts]))))
  refine .struct fun f mem => ?_
  simp only [List.mem_cons, List.not_mem_nil, or_false] at mem
  rcases mem with rfl | rfl | rfl | rfl | rfl | rfl | rfl | rfl
  · exact columns
  · exact .string _ (short _ (by simp [Table.texts]))
  · exact .string _ (short _ (by simp [Table.texts]))
  · exact .string _ (short _ (by simp [Table.texts]))
  · exact .bool _ _
  · exact .i32 _ _
  · exact serializer
  · exact .bool _ _

theorem fits_table {t : Table} (few : t.columns.length < sizeLimit)
    (short : ∀ s ∈ t.texts, (Utf8.encode s).length < sizeLimit) (createTime : Int32) :
    (PlainLink.table t createTime).Fits (depth + 5) := by
  have storage : (PlainLink.storage t).Fits (depth + 4) := fits_storage few short
  have partitions : (WireValue.list .struct []).Fits (depth + 4) :=
    .list (by decide) (List.forall_mem_nil _) (List.forall_mem_nil _)
  have parameters : ∀ f ∈ PlainLink.parameters t.kind, f.2.Fits (depth + 4) := by
    cases t.kind with
    | managed => exact List.forall_mem_nil _
    | external =>
      refine List.forall_mem_singleton.2 (.map (by decide) ?_ ?_ ?_)
      · exact List.forall_mem_singleton.2 ⟨rfl, rfl⟩
      · exact List.forall_mem_singleton.2 (.string _ (by decide))
      · exact List.forall_mem_singleton.2 (.string _ (by decide))
  have kind : (Utf8.encode t.kind.tableType).length < sizeLimit := by
    cases t.kind <;> decide
  refine .struct fun f mem => ?_
  simp only [List.append_assoc, List.mem_append, List.mem_cons, List.not_mem_nil, or_false] at mem
  rcases mem with (rfl | rfl | rfl | rfl | rfl | rfl | rfl) | mem | rfl
  · exact .string _ (short _ (by simp [Table.texts]))
  · exact .string _ (short _ (by simp [Table.texts]))
  · exact .i32 _ _
  · exact .i32 _ _
  · exact .i32 _ _
  · exact storage
  · exact partitions
  · exact parameters f mem
  · exact .string _ kind

/-- The arguments of a request nest six levels at most. -/
theorem fits_tree {request : Request} (fits : request.Fits) : request.tree.Fits (depth + 6) := by
  obtain ⟨texts, columns⟩ := fits
  cases request with
  | createDatabase name =>
    have text : (WireValue.string name).Fits (depth + 4) :=
      .string _ (texts name (by simp [Request.texts]))
    exact .struct (List.forall_mem_singleton.2 (.struct (List.forall_mem_singleton.2 text)))
  | createTable t createTime =>
    exact .struct (List.forall_mem_singleton.2 (fits_table columns texts createTime))
  | getSchema database name =>
    refine .struct (List.forall_mem_cons.2 ⟨?_, List.forall_mem_singleton.2 ?_⟩)
    · exact .string _ (texts database (by simp [Request.texts]))
    · exact .string _ (texts name (by simp [Request.texts]))

end Sizes

/-! ## Trees tell requests apart -/

theorem column_inj {c c' : Column} (same : PlainLink.column c = PlainLink.column c') : c = c' := by
  obtain ⟨name, type, comment⟩ := c
  obtain ⟨name', type', comment'⟩ := c'
  simpa [PlainLink.column] using same

theorem storage_inj {t t' : Table} (same : PlainLink.storage t = PlainLink.storage t') :
    t.columns = t'.columns ∧ t.location = t'.location ∧ t.inputFormat = t'.inputFormat ∧
      t.outputFormat = t'.outputFormat ∧ t.compressed = t'.compressed ∧
      t.serializationLib = t'.serializationLib := by
  simp only [PlainLink.storage, WireValue.struct.injEq, List.cons.injEq, Prod.mk.injEq,
    WireValue.list.injEq, WireValue.string.injEq, WireValue.bool.injEq, true_and, and_true] at same
  obtain ⟨columns, location, inputFormat, outputFormat, compressed, serializer⟩ := same
  have columns := (List.map_inj_right fun _ _ => column_inj).1 columns
  exact ⟨columns, location, inputFormat, outputFormat, compressed, serializer⟩

/-- A kind of table is told from what a table has behind its partitions. -/
theorem kind_inj {kind kind' : TableKind} {last last' : Int16 × WireValue}
    (same : PlainLink.parameters kind ++ [last] = PlainLink.parameters kind' ++ [last']) :
    kind = kind' := by
  have sameLength := congrArg List.length same
  cases kind <;> cases kind' <;> simp [PlainLink.parameters] at sameLength ⊢

theorem table_inj {t t' : Table} {createTime createTime' : Int32}
    (same : PlainLink.table t createTime = PlainLink.table t' createTime') :
    t = t' ∧ createTime = createTime' := by
  simp only [PlainLink.table, WireValue.struct.injEq, List.cons_append, List.nil_append,
    List.cons.injEq, Prod.mk.injEq, WireValue.string.injEq, WireValue.i32.injEq, true_and] at same
  obtain ⟨name, database, time, storage, ending⟩ := same
  obtain ⟨columns, location, inputFormat, outputFormat, compressed, serializer⟩ :=
    storage_inj storage
  have kind := kind_inj ending
  refine ⟨?_, time⟩
  cases t
  cases t'
  simp only at name database columns location inputFormat outputFormat compressed serializer kind
  subst name database columns location inputFormat outputFormat compressed serializer kind
  rfl

/-- **No two requests have the same arguments**, whatever the methods that they call. -/
theorem tree_inj {request request' : Request} (same : request.tree = request'.tree) :
    request = request' := by
  cases request with
  | createDatabase name =>
    cases request' with
    | createDatabase name' => simpa [tree] using same
    | createTable t' createTime' => simp [tree, PlainLink.table] at same
    | getSchema database' name' => simp [tree] at same
  | createTable t createTime =>
    cases request' with
    | createDatabase name' => simp [tree, PlainLink.table] at same
    | createTable t' createTime' =>
      simp only [tree, WireValue.struct.injEq, List.cons.injEq, Prod.mk.injEq, true_and,
        and_true] at same
      obtain ⟨rfl, rfl⟩ := table_inj same
      rfl
    | getSchema database' name' => simp [tree] at same
  | getSchema database name =>
    cases request' with
    | createDatabase name' => simp [tree] at same
    | createTable t' createTime' => simp [tree] at same
    | getSchema database' name' => simpa [tree] using same

/-! ## Messages -/

theorem type_tree (request : Request) : request.tree.type = .struct := by
  cases request <;> rfl

theorem arguments_prefix_iff {request request' : Request} (fits : request.Fits)
    (fits' : request'.Fits) :
    Writer.struct request.arguments <+: Writer.struct request'.arguments ↔ request = request' := by
  rw [← encode_tree, ← encode_tree]
  constructor
  · rintro ⟨more, same⟩
    have sameType : request.tree.type = request'.tree.type := by rw [type_tree, type_tree]
    have whole : request.tree.encode ++ more = request'.tree.encode ++ [] := by
      rw [same, List.append_nil]
    have nested : request.tree.Fits (0 + 6) := fits_tree fits
    have nested' : request'.tree.Fits (0 + 6) := fits_tree fits'
    exact tree_inj (WireValue.encode_append_inj nested nested' sameType whole).1
  · rintro rfl
    exact List.prefix_rfl

/-- The head of a request is read whole, and the arguments are left. -/
theorem messageHead_encode (request : Request) (sequence : Int32) (more : Bytes) :
    Reader.messageHead (request.encode sequence ++ more) =
      .ok ⟨.call, request.method.name, sequence⟩ (Writer.struct request.arguments ++ more) := by
  rw [encode, List.append_assoc]
  exact Reader.messageHead_append .call request.method.name_short sequence _

/-- Anyone who knows that a message has one struct behind its head can skip the request. -/
theorem skip_arguments {request : Request} (fits : request.Fits) (more : Bytes) :
    Reader.skip .struct (Writer.struct request.arguments ++ more) = .ok () more := by
  have nested : request.tree.Fits (58 + 6) := fits_tree fits
  have skipped := Reader.skipWithin_encode nested more
  rw [type_tree, encode_tree] at skipped
  exact skipped

/-- **A request is written faithfully.**  Its head is read back, what stands behind the head is one
struct that can be skipped, and the bytes say what is asked for: no request has arguments that begin
those of another one, and no message begins another one unless it is the same request with the same
number. -/
theorem encode_faithful {request request' : Request} (fits : request.Fits)
    (fits' : request'.Fits) (sequence sequence' : Int32) :
    (∃ arguments,
        Reader.messageHead (request.encode sequence) =
          .ok ⟨.call, request.method.name, sequence⟩ arguments ∧
        Reader.skip .struct arguments = .ok () []) ∧
      (Writer.struct request.arguments <+: Writer.struct request'.arguments ↔
        request = request') ∧
      (request.encode sequence <+: request'.encode sequence' ↔
        sequence = sequence' ∧ request = request') := by
  refine ⟨⟨Writer.struct request.arguments, ?_, ?_⟩, arguments_prefix_iff fits fits', ?_⟩
  · simpa using messageHead_encode request sequence []
  · simpa using skip_arguments fits []
  · constructor
    · rintro ⟨more, same⟩
      have head := messageHead_encode request sequence more
      have head' := messageHead_encode request' sequence' []
      rw [List.append_nil, ← same, head] at head'
      simp only [EStateM.Result.ok.injEq, Reader.MessageHead.mk.injEq, true_and,
        List.append_nil] at head'
      obtain ⟨⟨-, sameNumber⟩, sameArguments⟩ := head'
      exact ⟨sameNumber, (arguments_prefix_iff fits fits').1 ⟨more, sameArguments⟩⟩
    · rintro ⟨rfl, rfl⟩
      exact List.prefix_rfl

/-- Tables that differ in their kind alone, or in the order of their columns alone. -/
theorem encode_faithful_of_variants :
    let columns : List Column := [⟨"a", "int", ""⟩, ⟨"", "int", "a"⟩]
    let table : Table := ⟨"d", "t", "/", columns, "l", "i", "o", false, .managed⟩
    let managed := Request.createTable table 5
    let external := Request.createTable { table with kind := .external } 5
    let reversed := Request.createTable { table with columns := columns.reverse } 5
    ¬ managed.encode 1 <+: external.encode 1 ∧ ¬ managed.encode 1 <+: reversed.encode 1 := by
  intro columns table managed external reversed
  have fits : managed.Fits := ⟨by decide, by decide⟩
  have fitsExternal : external.Fits := ⟨by decide, by decide⟩
  have fitsReversed : reversed.Fits := ⟨by decide, by decide⟩
  refine ⟨fun begins => ?_, fun begins => ?_⟩
  · have same := ((encode_faithful fits fitsExternal 1 1).2.2.1 begins).2
    exact absurd same (by decide)
  · have same := ((encode_faithful fits fitsReversed 1 1).2.2.1 begins).2
    exact absurd same (by decide)

end Request

end MetastoreProbe
