import TapeMachine.Direction
import TapeMachine.Symbol

/-!
# The tape

A tape is unbounded on both sides but stores only one contiguous span of cells;
every cell outside the span is blank.  The head is an index relative to the
first stored cell.  It may stand outside the span: moving never stores
anything, and a write first extends the span up to the head.

The index is a whole number of any size.  One of 64 bits is the same for the
first 2^63 movements of a head, and more of them are not considered.
-/

namespace TapeMachine

/-- A tape with one head. -/
structure Tape where
  cells : Array Symbol
  /-- The head, counted from the first stored cell. -/
  head : Int

namespace Tape

/-- The tape that holds `symbols`, its head on the first of them. -/
def ofSymbols (symbols : List Symbol) : Tape where
  cells := symbols.toArray
  head := 0

/-- The tape that holds the characters of `word`, its head on the first of them. -/
def ofWord (word : String) : Tape :=
  ofSymbols word.toList

/-- The tape without any stored cell. -/
def empty : Tape :=
  ofSymbols []

instance : Inhabited Tape where
  default := empty

/-- The symbol of the cell at an index counted from the first stored cell. -/
def cellAt (tape : Tape) (index : Int) : Symbol :=
  if index < 0 then Symbol.blank else tape.cells.getD index.toNat Symbol.blank

/-- The symbol under the head. -/
def read (tape : Tape) : Symbol :=
  tape.cellAt tape.head

/-- The number of stored cells. -/
def storedLength (tape : Tape) : Nat :=
  tape.cells.size

/--
Writes `symbol` under the head.  A head left of the store extends the store to
the left, and its own cell becomes the first one; a head right of the store
extends it to the right.
-/
def write (tape : Tape) (symbol : Symbol) : Tape :=
  match tape with
  | { cells, head } =>
    if head < 0 then
      let gap := Array.replicate ((-head).toNat - 1) Symbol.blank
      { cells := #[symbol] ++ gap ++ cells, head := 0 }
    else if inside : head.toNat < cells.size then
      { cells := cells.set head.toNat symbol inside, head }
    else
      let gap := Array.replicate (head.toNat - cells.size) Symbol.blank
      { cells := (cells ++ gap).push symbol, head }

/-- Moves the head one cell in `direction`. -/
def shift (tape : Tape) (direction : Direction) : Tape :=
  { tape with head := tape.head + direction.offset }

/-- Writes `symbol` and then moves the head, as one transition does. -/
def apply (tape : Tape) (symbol : Symbol) (direction : Direction) : Tape :=
  (tape.write symbol).shift direction

end Tape

end TapeMachine
