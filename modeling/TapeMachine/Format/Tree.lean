import TapeMachine.Error

/-!
# What the grammar finds in a text

The grammar finds a description as a tree: the parts of the description, where each
begins, its text and the parts in it.  The headers and the transitions lie in the
description itself, and in each of them lie the tokens it is made of; marks, gaps
and comments leave nothing.

A description is collected from the tree part by part.  The grammar lets through
neither a token too few nor a movement that is none, so the complaints about these
are never made; that a header was given before is something that only the collection
can tell.
-/

namespace TapeMachine.Format

/-- A part of a description where it was found, with the parts found in it. -/
structure Tree where
  part : Part
  /-- The number of characters of the text before the part. -/
  offset : Nat
  /-- The text of the part. -/
  text : List Char
  inner : List Tree

/-- A report on a part, with a mark under all of it. -/
def Report.ofTree (source : List Char) (tree : Tree) (complaint : Complaint) : Report :=
  let place := Place.ofOffset source tree.offset
  {
    place
    endColumn? := some (place.column + tree.text.length)
    excerpt := Format.excerpt source tree.offset
    complaint
  }

namespace Tree

/-- The part found where a text of `size` characters goes on, and what is left behind it. -/
def found (size : Nat) (part : Part) (text rest : List Char) (inner : List Tree) : Tree where
  part
  offset := size - text.length
  text := text.take (text.length - rest.length)
  inner

/-- The failure of a part of a text. -/
def failure {Value : Type} (source : List Char) (tree : Tree) (complaint : Complaint) :
    Except MachineError Value :=
  .error (.report (.ofTree source tree complaint))

/-- The text of the first of the parts that are left in a part, and the others. -/
def nextText (source : List Char) (tree : Tree) :
    List Tree → Except MachineError (List Char × List Tree)
  | [] => tree.failure source .endOfLine
  | first :: others => .ok (first.text, others)

/-- The symbol that a text consists of. -/
def symbol (text : List Char) : Symbol :=
  text.headD Symbol.blank

/-- The movement that a part is the mark of. -/
def direction (source : List Char) (tree : Tree) : Except MachineError Direction :=
  if tree.text = ['<'] then .ok .left
  else if tree.text = ['>'] then .ok .right
  else if tree.text = ['^'] then .ok .stay
  else tree.failure source (.unsupported tree.text)

/-- The transition that a part is. -/
def transition (source : List Char) (tree : Tree) : Except MachineError Transition := do
  let (state, rest) ← tree.nextText source tree.inner
  let (read, rest) ← tree.nextText source rest
  let (next, rest) ← tree.nextText source rest
  let (write, rest) ← tree.nextText source rest
  match rest with
  | [] => tree.failure source .noMovement
  | movement :: _ =>
    let direction ← movement.direction source
    return {
      state := String.ofList state
      symbol := symbol read
      next := String.ofList next
      write := symbol write
      direction
    }

end Tree

/-! ## Collecting a description -/

/-- What was found of a description so far. -/
structure Collected where
  start? : Option String := none
  accept? : Option String := none
  reject? : Option String := none
  blank? : Option Symbol := none
  transitions : List Transition := []
  /-- The keywords of the headers found. -/
  seen : List Keyword := []

namespace Collected

/-- The collection with the value of one more header. -/
def putHeader (collected : Collected) (keyword : Keyword) (value : List Char) : Collected :=
  let collected := { collected with seen := keyword :: collected.seen }
  match keyword with
  | .start => { collected with start? := some (String.ofList value) }
  | .accept => { collected with accept? := some (String.ofList value) }
  | .reject => { collected with reject? := some (String.ofList value) }
  | .blank => { collected with blank? := some (Tree.symbol value) }

/-- The collection with one more part of the description, unless it is a header again. -/
def put (source : List Char) (collected : Collected) (tree : Tree) :
    Except MachineError Collected :=
  match tree.part with
  | .header keyword =>
    if keyword ∈ collected.seen then tree.failure source (.repeated keyword)
    else (tree.nextText source tree.inner).map fun (value, _) =>
      collected.putHeader keyword value
  | .transition =>
    (tree.transition source).map fun made =>
      { collected with transitions := collected.transitions ++ [made] }
  | _ => .ok collected

/-- A value that was found, or the complaint that its header is missing. -/
def require {Value : Type} (keyword : Keyword) : Option Value → Except MachineError Value
  | some value => .ok value
  | none => .error (.invalid (.missing keyword))

/-- The description that was collected. -/
def description (collected : Collected) : Except MachineError Description := do
  let start ← require .start collected.start?
  let accept ← require .accept collected.accept?
  let reject ← require .reject collected.reject?
  let blank ← require .blank collected.blank?
  return { start, accept, reject, blank, transitions := collected.transitions }

end Collected

/-- The description that a tree is. -/
def Tree.description (source : List Char) (tree : Tree) : Except MachineError Description := do
  let collected ← tree.inner.foldlM (Collected.put source) {}
  collected.description

end TapeMachine.Format
