/-!
# Lines of a text

A line ends at a line feed, at a carriage return, or at the two in this order,
which end one line together.  Each line remembers how many characters stand
before it, so that a place in it is a place in the text.
-/

namespace TapeMachine.Format

/-- One line of a text, without its end. -/
structure Line where
  /-- The number of characters of the text before the line. -/
  offset : Nat
  text : List Char
  deriving DecidableEq

namespace Line

/-- Puts a character in front of the first of some lines. -/
def consFirst (offset : Nat) (c : Char) : List Line → List Line
  | [] => [{ offset, text := [c] }]
  | line :: more => { offset, text := c :: line.text } :: more

/-- The lines of a text that stands behind `offset` characters. -/
def cut (offset : Nat) : List Char → List Line
  | [] => [{ offset, text := [] }]
  | '\r' :: '\n' :: rest => { offset, text := [] } :: cut (offset + 2) rest
  | c :: rest =>
    if c = '\n' ∨ c = '\r' then { offset, text := [] } :: cut (offset + 1) rest
    else consFirst offset c (cut (offset + 1) rest)

end Line

end TapeMachine.Format
