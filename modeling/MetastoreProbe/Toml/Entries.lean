import MetastoreProbe.Toml.Value

/-!
# Building tables

Where the value of a key goes.  A path leads through tables, making those that are missing, and
the rules of the language say which existing tables it may lead through: never one in braces,
which is finished where it stands, and with a dotted key none that has a header of its own.  A
path into a list of tables leads into its last one.
-/

namespace MetastoreProbe

namespace Toml

namespace Entries

/-- The entries with the value of an existing key replaced. -/
def replace (entries : Entries) (key : String) (value : Value) : Entries :=
  entries.map fun (k, v) => if k = key then (k, value) else (k, v)

/-- The entries without a key. -/
def remove (entries : Entries) (key : String) : Entries :=
  entries.filter fun (k, _) => k ≠ key

/-- Changes the table at the end of a path.  Tables that are missing on the way are made with the
origin `made`; `change` is given the origin of the table that it changes. -/
def within (made : Origin) (change : Origin → Entries → Except Fault Entries) :
    (path : List String) → Origin → Entries → Except Fault Entries
  | [], origin, entries => change origin entries
  | key :: path, _, entries =>
    match entries.lookup key with
    | none => do
      let inner ← within made change path made []
      return entries ++ [(key, .table made inner)]
    | some (.table origin inner) =>
      if origin = .inline then .error (.notExtensible key)
      else if made.isDotted ∧ ¬ origin.isImplicit then .error (.duplicateKey key)
      else do
        let inner ← within made change path origin inner
        return replace entries key (.table origin inner)
    | some (.tables items) =>
      match items.getLast? with
      | none => .error (.notExtensible key)
      | some last => do
        let last ← within made change path .header last
        return replace entries key (.tables (items.dropLast ++ [last]))
    | some _ => .error (.notExtensible key)

/-- Adds a key to a table.  Where the key is the end of a dotted one, the table must have been made
by a dotted key itself. -/
def add (dotted : Bool) (key : String) (value : Value) (origin : Origin) (entries : Entries) :
    Except Fault Entries :=
  if origin.isDotted ≠ dotted then .error (.duplicateKey key)
  else if (entries.lookup key).isSome then .error (.duplicateKey key)
  else .ok (entries ++ [(key, value)])

/-- Adds a value under a key, dotted if `path` is not empty, to the table with the given origin. -/
def define (made : Origin) (path : List String) (key : String) (value : Value) (origin : Origin)
    (entries : Entries) : Except Fault Entries :=
  within made (add (!path.isEmpty) key value) path origin entries

/-- Opens a table with a header.  One that so far was only a parent becomes a table of its own,
with what it has. -/
def openTable (key : String) (_ : Origin) (entries : Entries) : Except Fault Entries :=
  match entries.lookup key with
  | none => .ok (entries ++ [(key, .table .header [])])
  | some (.table .parent inner) => .ok (entries.remove key ++ [(key, .table .header inner)])
  | some _ => .error (.duplicateKey key)

/-- Opens one more table of a list of tables. -/
def openNext (key : String) (_ : Origin) (entries : Entries) : Except Fault Entries :=
  match entries.lookup key with
  | none => .ok (entries ++ [(key, .tables [[]])])
  | some (.tables items) => .ok (replace entries key (.tables (items ++ [[]])))
  | some _ => .error (.duplicateKey key)

/-- The table in braces with the given dotted keys and values. -/
def ofPairs (pairs : List (List String × String × Value)) : Except Fault Entries :=
  pairs.foldlM
    (fun entries (path, key, value) => define .inlineDotted path key value .inline entries) []

end Entries

/-! ## Documents -/

/-- A line of a document that says something. -/
inductive Expression
  /-- A key, dotted if `path` is not empty, and its value. -/
  | keyValue (path : List String) (key : String) (value : Value)
  /-- The header of a table. -/
  | header (path : List String) (key : String)
  /-- The header of one more table of a list. -/
  | nextHeader (path : List String) (key : String)
  deriving Repr

/-- A document so far. -/
structure Document where
  root : Entries := []
  /-- The path of the table that keys are added to. -/
  current : List String := []
  deriving Repr

namespace Document

/-- The document with one more expression. -/
def extend (d : Document) : Expression → Except Fault Document
  | .keyValue path key value => do
    let root ←
      Entries.within .parent (Entries.define .dotted path key value) d.current .header d.root
    return { d with root }
  | .header path key => do
    let root ← Entries.within .parent (Entries.openTable key) path .header d.root
    return { root, current := path ++ [key] }
  | .nextHeader path key => do
    let root ← Entries.within .parent (Entries.openNext key) path .header d.root
    return { root, current := path ++ [key] }

/-- The table that expressions make up. -/
def ofExpressions (expressions : List Expression) : Except Fault Entries := do
  let d ← expressions.foldlM extend {}
  return d.root

end Document

end Toml

end MetastoreProbe
