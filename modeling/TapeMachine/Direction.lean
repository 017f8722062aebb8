/-!
# Head movements

The head of a machine moves one cell to the left, one cell to the right, or
stays where it is.  A movement has a one-character mark in description files
and a name in documents.
-/

namespace TapeMachine

/-- A movement of the head. -/
inductive Direction where
  | left
  | right
  | stay
  deriving DecidableEq

namespace Direction

/-- The mark of a movement in a description file. -/
def mark : Direction → Char
  | left => '<'
  | right => '>'
  | stay => '^'

/-- The movement with the given mark. -/
def ofMark? (mark : Char) : Option Direction :=
  if mark = '<' then some left
  else if mark = '>' then some right
  else if mark = '^' then some stay
  else none

@[simp]
theorem ofMark?_mark (direction : Direction) : ofMark? direction.mark = some direction := by
  cases direction <;> rfl

/-- The name of a movement in a document. -/
def name : Direction → String
  | left => "Left"
  | right => "Right"
  | stay => "Stay"

/-- The movement with the given name. -/
def ofName? (name : String) : Option Direction :=
  if name = "Left" then some left
  else if name = "Right" then some right
  else if name = "Stay" then some stay
  else none

@[simp]
theorem ofName?_name (direction : Direction) : ofName? direction.name = some direction := by
  cases direction <;> simp [name, ofName?]

/-- By how many cells the head moves to the right. -/
def offset : Direction → Int
  | left => -1
  | right => 1
  | stay => 0

end Direction

end TapeMachine
