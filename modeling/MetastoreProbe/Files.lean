import MetastoreProbe.Bytes.BigEndian

/-!
# Files

What reading the file at a path comes to.  The program knows its files only as such a function
(`Files`), so that a run on a given set of files is a value; `FileTree.files` is the function of a
tree of directories.

A path is walked component by component.  Empty components and `.` stay where they are, `..` leads
to the parent, and the parent of the root is the root.  Walking through a file fails even where
the rest of the path is empty.
-/

namespace MetastoreProbe

/-- Why a file cannot be read. -/
inductive FileFault
  | notFound
  | isDirectory
  | notDirectory
  | nulInPath
  | nameTooLong
  | other (text : String)
  deriving DecidableEq, Repr

/-- The wording of a failed read. -/
def FileFault.message : FileFault → String
  | notFound => "No such file or directory (os error 2)"
  | isDirectory => "Is a directory (os error 21)"
  | notDirectory => "Not a directory (os error 20)"
  | nulInPath => "file name contained an unexpected NUL byte"
  | nameTooLong => "File name too long (os error 36)"
  | other text => text

/-- What reading the file at a path comes to. -/
abbrev Files : Type := String → Except FileFault Bytes

/-- A file, or a directory with the names of what it holds. -/
inductive FileTree
  | file (content : Bytes)
  | directory (entries : List (String × FileTree))

namespace FileTree

/-- The longest name of a file or directory, in bytes. -/
def maxNameLength : Nat := 255

/-- The longest path, in bytes. -/
def maxPathLength : Nat := 4095

/-- What a walk over the components of a path leads to; `parents` are the directories around
`tree`, the nearest one first. -/
def walk (parents : List FileTree) (tree : FileTree) :
    (components : List String) → Except FileFault FileTree
  | [] => .ok tree
  | component :: rest =>
    match tree with
    | .file _ => .error .notDirectory
    | .directory entries =>
      if component = "" ∨ component = "." then walk parents tree rest
      else if component = ".." then
        match parents with
        | [] => walk [] tree rest
        | parent :: parents => walk parents parent rest
      else if maxNameLength < component.utf8ByteSize then .error .nameTooLong
      else
        match entries.lookup component with
        | none => .error .notFound
        | some inner => walk (tree :: parents) inner rest

/-- The components of a path. -/
def components (path : String) : List String :=
  (path.toList.splitOn '/').map String.ofList

/-- The files of a tree; a path that does not start at the root starts at the directory with the
components `current`. -/
def files (root : FileTree) (current : List String) : Files := fun path =>
  if path.toList.contains '\x00' then .error .nulInPath
  else if path = "" then .error .notFound
  else if maxPathLength < path.utf8ByteSize then .error .nameTooLong
  else
    let components := components path
    let fromRoot := if components.head? = some "" then components else current ++ components
    match walk [] root fromRoot with
    | .error fault => .error fault
    | .ok (.file content) => .ok content
    | .ok (.directory _) => .error .isDirectory

end FileTree

end MetastoreProbe
