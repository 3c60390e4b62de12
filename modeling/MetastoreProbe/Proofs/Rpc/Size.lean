import Mathlib.Algebra.GroupWithZero.Nat
import MetastoreProbe.Proofs.Rpc.Declared
import MetastoreProbe.Proofs.Text.Width

/-!
# How much a reply can hold

The size that a list declares says how often the client reads a column, and nothing is set aside
for it beforehand.  What is read must be paid for: a reader `Pays` if what it gives is worth no
more than the bytes that it takes.  A text costs its length, a column its texts and the stop tag,
and a part of a column that comes again replaces what was paid for before.

`Reply.decodeSchema_size` says of every reply that is decoded to columns that they are as many as
its last list declares, and that they and their texts are no more than its bytes.
-/

namespace MetastoreProbe

/-- The length of the texts of a column. -/
def Column.size (c : Column) : Nat :=
  c.name.utf8ByteSize + c.type.utf8ByteSize + c.comment.utf8ByteSize

/-- The field is declared a list, and the list declares that size, whatever stands in it. -/
structure RawField.DeclaresSize (f : RawField) (size : Int32) : Prop where
  type : f.type = .list
  value : ∃ (element : WireType) (elements : Bytes),
    f.value = element.code :: (Writer.i32 size ++ elements)

/-! ## Readers that pay -/

namespace Reader

variable {α β σ : Type} {credit : Nat} {worth : α → Nat}

/-- What the reader gives is worth no more than the credit at hand and the bytes that it takes. -/
def Pays (credit : Nat) (worth : α → Nat) (p : Reader α) : Prop :=
  ∀ input a rest, p input = .ok a rest → worth a + rest.length ≤ credit + input.length

theorem pays_pure {a : α} (enough : worth a ≤ credit) : Pays credit worth (pure a) := by
  rintro input _ _ ⟨⟩
  exact Nat.add_le_add_right enough _

theorem pays_throw {fault : DecodeFault} : Pays credit worth (throw fault : Reader α) := nofun

/-- Whatever is read, the credit is still at hand. -/
theorem pays_of_accounts {p : Reader α} (accounts : Accounts p) (credit : Nat) :
    Pays credit (fun _ => credit) p :=
  fun _ _ _ read => Nat.add_le_add_left (length_of_accounts accounts read) credit

/-- What the first reader gives is at hand for the second one. -/
theorem Pays.bind {p : Reader α} {f : α → Reader β} {worth' : β → Nat} (first : Pays credit worth p)
    (second : ∀ a, Pays (worth a) worth' (f a)) : Pays credit worth' (p >>= f) := by
  intro input b rest read
  obtain ⟨a, middle, read, more⟩ := Scan.bind_eq_ok_iff.1 read
  exact Nat.le_trans (second a middle b rest more) (first input a middle read)

/-- What is at hand besides is kept. -/
theorem Pays.keep {p : Reader α} (pays : Pays credit worth p) (more : Nat) :
    Pays (more + credit) (fun a => more + worth a) p := by
  intro input a rest read
  have bound := pays input a rest read
  dsimp only
  omega

theorem pays_bytes (n : Nat) : Pays 0 List.length (bytes n) := by
  intro input taken rest read
  obtain ⟨-, rfl⟩ := Scan.take_eq_ok_iff.1 read
  rw [List.length_append, Nat.zero_add]

/-- **A text costs its length.** -/
theorem pays_string : Pays 0 String.utf8ByteSize string := by
  refine (pays_of_accounts accounts_i32 0).bind fun length => ?_
  dsimp only
  split
  · exact pays_throw
  · refine (pays_bytes _).bind fun spelled => ?_
    cases decoded : Utf8.decode spelled with
    | error fault => exact pays_throw
    | ok s => exact pays_pure (Utf8.utf8ByteSize_of_decode decoded)

/-- **A struct costs a byte besides what its fields cost**, if each field pays for what the state is
worth more behind it. -/
theorem pays_fields {step : WireType → Int16 → σ → Reader σ} {worth : σ → Nat}
    (pays : ∀ t id s, Pays (worth s) worth (step t id s)) (s : σ) :
    Pays (worth s) (fun s' => worth s' + 1) (fields step s) := by
  intro input s' rest read
  have takes := takesFields_of_ok read
  clear read
  induction takes with
  | stop head =>
    have shorter := length_of_fieldHead head
    dsimp only
    omega
  | @field s _ _ t id _ _ _ _ head value more ih =>
    have shorter := length_of_fieldHead head
    have bound := pays t id s _ _ _ value
    omega

/-- **What is read over and over is paid for each time.** -/
theorem pays_collect {p : Reader α} (pays : Pays 0 (fun a => worth a + 1) p) (n : Nat) :
    Pays 0 (fun as => as.length + (as.map worth).sum) (Scan.collect n p) := by
  induction n with
  | zero => exact pays_pure (Nat.le_refl 0)
  | succ n ih =>
    refine pays.bind fun a => (ih.keep (worth a + 1)).bind fun as => pays_pure ?_
    rw [List.map_cons, List.sum_cons, List.length_cons]
    omega

end Reader

namespace Reply

open Reader

/-! ## Columns -/

/-- A part of a column replaces what was read of it before. -/
theorem pays_takePart (t : WireType) (id : Int16) (c : Column) :
    Pays c.size Column.size (takePart t id c) := by
  have text := pays_string.keep c.size
  unfold takePart
  split
  · refine text.bind fun name => pays_pure ?_
    dsimp only [Column.size]
    omega
  · refine text.bind fun type => pays_pure ?_
    dsimp only [Column.size]
    omega
  · refine text.bind fun comment => pays_pure ?_
    dsimp only [Column.size]
    omega
  · exact (pays_of_accounts (accounts_skip _) c.size).bind fun _ => pays_pure (Nat.le_refl _)

theorem pays_readColumn : Pays 0 (fun c => c.size + 1) readColumn := by
  rw [readColumn_eq]
  exact pays_fields pays_takePart ⟨"", "", ""⟩

theorem pays_readSchemaValue (t : WireType) :
    Pays 0 (fun columns => columns.length + (columns.map Column.size).sum) (readSchemaValue t) := by
  unfold readSchemaValue
  split
  · exact (pays_of_accounts accounts_type 0).bind fun _ =>
      (pays_of_accounts accounts_count 0).bind fun n => pays_collect pays_readColumn n
  · exact pays_throw

/-! ## Replies -/

/-- **A declared size does not make a reply hold more than its bytes.**

The columns of a reply are as many as the last list with the id 0 declares, and none if that is
below zero.  They and all their texts are together no more than the bytes of the reply. -/
theorem decodeSchema_size {sequence : Int32} {bytes : Bytes} {schema : Schema}
    (decoded : decodeSchema sequence bytes = .ok (.value schema)) :
    (∃ r result before f after size, r.bytes = bytes ∧
      GivesResult .getSchema sequence readSchemaValue r result ∧
      IsLast (·.id = 0) r.fields before f after ∧ f.DeclaresSize size ∧
      schema.columns.length = size.toInt.toNat) ∧
    schema.columns.length + (schema.columns.map Column.size).sum ≤ bytes.length := by
  obtain ⟨rest, given⟩ := decodeSchema_eq_value_iff.1 decoded
  obtain ⟨r, result, before, f, after, rfl, -, gives, -, last, read⟩ :=
    exists_value_of_read accounts_readSchemaValue given
  constructor
  · have holds := isColumns_of_readSchemaValue read
    obtain ⟨element, size, structs, value, count, columns⟩ := holds.value
    refine ⟨r, result, before, f, after, size, rfl, gives, last,
      ⟨holds.type, element, _, value⟩, ?_⟩
    rw [← count, columns.length_eq]
  · -- The bytes of the last list alone pay for the columns.
    have paid := pays_readSchemaValue f.type f.value _ _ read
    have mem : f ∈ r.fields := by
      rw [last.split]
      exact List.mem_append_right before List.mem_cons_self
    have within := RawField.length_value_le mem
    rw [RawReply.bytes, List.length_append, List.length_append]
    simp only [List.length_nil] at paid
    omega

/-- Of two lists the second one counts, and of two names in its column the second one too. -/
theorem decodeSchema_size_of_two_lists :
    let name (s : String) : RawField := ⟨.string, 1, Writer.string s⟩
    let columns (size : Int32) (structs : List (List RawField)) : RawField :=
      ⟨.list, 0, WireType.struct.code :: (Writer.i32 size ++ structs.flatMap RawField.struct)⟩
    let bytes := Writer.messageHead .reply "get_schema" 1 ++
      RawField.struct [columns 2 [[name "a"], []], columns 1 [[name "b", name "ä"]]]
    let schema : Schema := ⟨[⟨"ä", "", ""⟩]⟩
    decodeSchema 1 bytes = .ok (.value schema) ∧
      schema.columns.length + (schema.columns.map Column.size).sum ≤ bytes.length := by
  intro name columns bytes schema
  have decoded : decodeSchema 1 bytes = .ok (.value schema) := by decide +kernel
  exact ⟨decoded, (decodeSchema_size decoded).2⟩

end Reply

end MetastoreProbe
