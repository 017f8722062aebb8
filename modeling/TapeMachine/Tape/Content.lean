import TapeMachine.Tape.Basic

/-!
# What can be seen of a tape

How many cells a tape happens to store is an accident of its history.  What
matters is its content: the smallest span that covers the head and every cell
that is not blank.  Content and the place of the head in it decide equality,
and they are all that rendering shows.
-/

namespace TapeMachine.Tape

/-- Whether a cell holds something other than the blank. -/
def isInk (symbol : Symbol) : Bool :=
  symbol != Symbol.blank

/-- The index of the first cell that is not blank. -/
def firstInk? (tape : Tape) : Option Nat :=
  tape.cells.findIdx? isInk

/-- The index of the last cell that is not blank. -/
def lastInk? (tape : Tape) : Option Nat :=
  (tape.cells.reverse.findIdx? isInk).map fun fromEnd => tape.cells.size - 1 - fromEnd

/-- The index of the first cell of the content. -/
def contentStart (tape : Tape) : Int :=
  match tape.firstInk? with
  | none => tape.head
  | some first => min (first : Int) tape.head

/-- The index of the last cell of the content. -/
def contentEnd (tape : Tape) : Int :=
  match tape.lastInk? with
  | none => tape.head
  | some last => max (last : Int) tape.head

/-- The smallest span of cells that covers the head and every cell that is not blank. -/
def content (tape : Tape) : List Symbol :=
  let start := tape.contentStart
  (List.range (tape.contentEnd - start + 1).toNat).map fun (step : Nat) =>
    tape.cellAt (start + step)

/-- The place of the head in the content. -/
def headOffset (tape : Tape) : Nat :=
  (tape.head - tape.contentStart).toNat

/-- Two tapes are equal when they agree in content and in the place of the head. -/
instance : BEq Tape where
  beq left right :=
    left.headOffset == right.headOffset && left.content == right.content

instance : Hashable Tape where
  hash tape := mixHash (hash (String.ofList tape.content)) (hash tape.headOffset)

/-- The texts of the cells of the content, the cell under the head in brackets. -/
def cellTexts (tape : Tape) (shownBlank : Symbol) : List (List Char) :=
  let offset := tape.headOffset
  tape.content.mapIdx fun index symbol =>
    let shown := symbol.present shownBlank
    if index = offset then ['[', shown, ']'] else [shown]

/-- The content as one text, blank cells shown as `shownBlank`. -/
def render (tape : Tape) (shownBlank : Symbol) : String :=
  String.ofList (tape.cellTexts shownBlank).flatten

end TapeMachine.Tape
