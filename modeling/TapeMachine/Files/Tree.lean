import TapeMachine.Files.Storage

/-!
# File trees

A file tree is storage held in a value: files with their bytes, and directories
with named entries.  A path is followed one name at a time from the root.  A
name leads on only from a directory, `.` and an empty name stay, and `..` goes
back; above the root there is nothing to be found.
-/

namespace TapeMachine

/-- A file or a directory with all it holds. -/
inductive FileTree where
  | file (bytes : ByteArray)
  | directory (entries : List (String × FileTree))

namespace FileTree

/-- The entry of a directory with the given name. -/
def child? (entries : List (String × FileTree)) (name : String) : Option FileTree :=
  (entries.find? (·.1 == name)).map Prod.snd

/-- The largest size of one name in a path, in bytes. -/
def nameLimit : Nat := 255

/-- The largest size of a path, in bytes. -/
def pathLimit : Nat := 4095

/-- The fault of a name or a path that is too long. -/
def tooLong : Fault := .other "File name too long (os error 36)"

/-- The fault of a path with a character that no name can have. -/
def zeroCharacter : Fault := .other "file name contained an unexpected NUL byte"

/-- Follows names from a place whose ancestors are known, the nearest first. -/
def follow (ancestors : List FileTree) (place : FileTree) :
    List String → Except Fault FileTree
  | [] => .ok place
  | name :: rest =>
    match place with
    | file _ => .error .notDirectory
    | directory entries =>
      if name = "" ∨ name = "." then follow ancestors place rest
      else if name = ".." then
        match ancestors with
        | [] => follow [] (directory []) rest
        | parent :: older => follow older parent rest
      else if nameLimit < name.utf8ByteSize then .error tooLong
      else
        match child? entries name with
        | none => .error .notFound
        | some child => follow (place :: ancestors) child rest

/-- The names of a path. -/
def namesOf (path : String) : List String :=
  (path.toList.splitOn '/').map String.ofList

/-- The place a path leads to. -/
def find (root : FileTree) (path : String) : Except Fault FileTree :=
  if path.contains '\x00' then .error zeroCharacter
  else if pathLimit < path.utf8ByteSize then .error tooLong
  else if path = "" ∨ path.startsWith "/" then .error .notFound
  else follow [] root (namesOf path)

/-- The storage a tree is. -/
def storage (root : FileTree) : Storage where
  readFile path := do
    match ← root.find path with
    | file bytes => return bytes
    | directory _ => throw .isDirectory
  isDirectory path :=
    match root.find path with
    | .ok (directory _) => true
    | _ => false
  listDirectory path := do
    match ← root.find path with
    | file _ => throw .notDirectory
    | directory entries => return entries.map fun entry => .ok entry.1

/-- A path is known to lead to a directory exactly if it leads to one. -/
theorem isDirectory_storage_iff {root : FileTree} {path : String} :
    root.storage.isDirectory path = true ↔
      ∃ entries, root.find path = .ok (.directory entries) := by
  simp only [storage]
  split
  · next entries found => simp [found]
  · next other => simpa using fun entries found => other entries found

end FileTree

end TapeMachine
