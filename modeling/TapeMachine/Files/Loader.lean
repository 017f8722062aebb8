import TapeMachine.Files.Storage
import TapeMachine.Format.Reader

/-!
# Loading from files

Descriptions and words are read from text files.  A directory is loaded as a
whole: everything in it whose name is a stem and the extension of descriptions,
each with its description or with the error it fails with; only what its path
shows to be a directory is passed over.  An entry whose name cannot be read is
an error too.  The descriptions come first, in the order of their paths; the
errors keep the order in which the directory lists its entries.
-/

namespace TapeMachine

/-- The extension of description files. -/
def descriptionExtension : String := "tm"

/-- Whether a name is a stem of at least one character, a point, and the extension. -/
def isDescriptionName (name : String) : Bool :=
  let ending := '.' :: descriptionExtension.toList
  let characters := name.toList
  ending.isSuffixOf characters && ending.length < characters.length

/-- The path of an entry of a directory. -/
def entryPath (directory name : String) : String :=
  if directory.endsWith "/" then directory ++ name else directory ++ "/" ++ name

namespace Storage

/-- The text of a file that has to be there. -/
def loadText (storage : Storage) (path : String) : Except MachineError String :=
  match storage.readText path with
  | .ok text => .ok text
  | .error fault => .error (.unreadable (.file path fault))

/-- The description in a file. -/
def loadDescription (storage : Storage) (path : String) : Except MachineError Description := do
  let text ← storage.loadText path
  Description.parse text

/-- The word in a file, without the white space around it. -/
def loadWord (storage : Storage) (path : String) : Except MachineError String := do
  let text ← storage.loadText path
  return String.ofList (Text.trim text.toList)

/-- What a file of a directory comes to: its path with its description, or an error. -/
abbrev Loaded := Except MachineError (String × Description)

/-- Loads one file of a directory. -/
def loadFile (storage : Storage) (directory name : String) : Loaded :=
  let path := entryPath directory name
  (storage.loadDescription path).map (path, ·)

/-- Loads one entry of a directory, unless it is passed over. -/
def loadEntry? (storage : Storage) (directory : String) : Except Fault String → Option Loaded
  | .error fault => some (.error (.unreadable (.entry fault)))
  | .ok name =>
    if storage.isDirectory (entryPath directory name) || !isDescriptionName name then none
    else some (storage.loadFile directory name)

/-- Whether one result comes before another, or neither has to come first. -/
def Loaded.comesFirst : Loaded → Loaded → Bool
  | .ok (left, _), .ok (right, _) => !decide (right < left)
  | .ok _, .error _ => true
  | .error _, .ok _ => false
  | .error _, .error _ => true

/-- Loads all descriptions of a directory. -/
def loadAll (storage : Storage) (directory : String) : List Loaded :=
  match storage.listDirectory directory with
  | .error fault => [.error (.unreadable (.directory directory fault))]
  | .ok entries =>
    (entries.filterMap (storage.loadEntry? directory)).mergeSort Loaded.comesFirst

end Storage

end TapeMachine
