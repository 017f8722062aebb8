import TapeMachine.Direction
import TapeMachine.Symbol

/-!
# The tokens of a description line

A line of a description file consists of state names, symbols, head movements
and fixed marks.  Spaces and tabs may stand between any two of them; a gap is
needed only where the end of a state name could not be told otherwise.  A token
is read from the front of a list of characters, and what is left is returned
beside it.
-/

namespace TapeMachine.Format

/-- Whether a character is a gap between tokens: a space or a tab. -/
def isGap (c : Char) : Bool :=
  c == ' ' || c == '\t'

/-- Whether a character can be part of a state name. -/
def isNameChar (c : Char) : Bool :=
  !isGap c && c != ':'

/-- The text without the gap it begins with. -/
def skipGap (text : List Char) : List Char :=
  text.dropWhile isGap

/-- The text without the gaps at its two ends. -/
def trimGaps (text : List Char) : List Char :=
  (skipGap (skipGap text).reverse).reverse

/-- What follows a fixed mark that the text begins with. -/
def afterMark? (mark text : List Char) : Option (List Char) :=
  mark.isPrefixOf? text

/-- A state name, as long as it can be. -/
def stateName? (text : List Char) : Option (String × List Char) :=
  match text.takeWhile isNameChar with
  | [] => none
  | name => some (String.ofList name, text.dropWhile isNameChar)

/-- A symbol: any one character that is no gap. -/
def symbol? : List Char → Option (Symbol × List Char)
  | [] => none
  | c :: rest => if isGap c then none else some (c, rest)

/-- A head movement. -/
def direction? : List Char → Option (Direction × List Char)
  | [] => none
  | c :: rest => (Direction.ofMark? c).map (·, rest)

end TapeMachine.Format
