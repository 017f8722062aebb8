import TapeMachine.Tape.Operation

/-!
# The infinite tape

The tape as it is meant: a symbol for every whole number, and a head at one of
them.  Nothing is stored and nothing grows, so the operations are what they say.
Its content is not computed but described: the least span of cells that covers
the head and every cell that is not blank.
-/

namespace TapeMachine

/-- A symbol for every whole number, and a head. -/
structure InfiniteTape where
  cell : Int → Symbol
  head : Int

namespace InfiniteTape

/-- The tape that holds `symbols` from cell zero on, its head there. -/
def ofSymbols (symbols : List Symbol) : InfiniteTape where
  cell position := if position < 0 then Symbol.blank else symbols.getD position.toNat Symbol.blank
  head := 0

/-- The symbol under the head. -/
def read (tape : InfiniteTape) : Symbol :=
  tape.cell tape.head

/-- Writes a symbol under the head. -/
def write (tape : InfiniteTape) (symbol : Symbol) : InfiniteTape :=
  { tape with cell := fun position => if position = tape.head then symbol else tape.cell position }

/-- Moves the head one cell in `direction`. -/
def shift (tape : InfiniteTape) (direction : Direction) : InfiniteTape :=
  match direction with
  | .left => { tape with head := tape.head - 1 }
  | .right => { tape with head := tape.head + 1 }
  | .stay => tape

/-- Writes a symbol and then moves the head. -/
def apply (tape : InfiniteTape) (symbol : Symbol) (direction : Direction) : InfiniteTape :=
  (tape.write symbol).shift direction

/-- Does one thing to a tape. -/
def act (tape : InfiniteTape) : Tape.Operation → InfiniteTape
  | .write symbol => tape.write symbol
  | .shift direction => tape.shift direction
  | .apply symbol direction => tape.apply symbol direction

/-- Does several things to a tape, one after the other. -/
def perform (tape : InfiniteTape) (operations : List Tape.Operation) : InfiniteTape :=
  operations.foldl act tape

/--
The cells from `first` to `last` are the least span that covers the head and
every cell that is not blank.
-/
structure Spans (tape : InfiniteTape) (first last : Int) : Prop where
  first_le_head : first ≤ tape.head
  head_le_last : tape.head ≤ last
  blank_outside : ∀ position, position < first ∨ last < position →
    tape.cell position = Symbol.blank
  first_needed : first = tape.head ∨ tape.cell first ≠ Symbol.blank
  last_needed : last = tape.head ∨ tape.cell last ≠ Symbol.blank

/-- The symbols of a span of cells. -/
def symbolsBetween (tape : InfiniteTape) (first last : Int) : List Symbol :=
  (List.range (last - first + 1).toNat).map fun (step : Nat) => tape.cell (first + step)

end InfiniteTape

end TapeMachine
