import TapeMachine.Error

/-!
# Storage

Storage is whatever answers the three questions asked of files: which bytes a
file holds, whether a path leads to a directory, and what a directory lists.  A
directory lists its entries in an order of its own, and may fail at single ones.

Paths and names are texts.  A file system can hold names that are not written in
UTF-8; storage with such names is not considered.
-/

namespace TapeMachine

/-- Where files are read from. -/
structure Storage where
  readFile : String → Except Fault ByteArray
  /-- Whether a path is known to lead to a directory; one that cannot be followed is not. -/
  isDirectory : String → Bool
  /-- The names of the entries of a directory, each unless this entry cannot be read. -/
  listDirectory : String → Except Fault (List (Except Fault String))

/-- The text of the file at a path. -/
def Storage.readText (storage : Storage) (path : String) : Except Fault String := do
  let bytes ← storage.readFile path
  match String.fromUTF8? bytes with
  | some text => return text
  | none => throw .notText

end TapeMachine
