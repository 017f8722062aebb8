import TapeMachine.Description
import TapeMachine.Format.Token

/-!
# Statements

Every line of a description file makes one statement.  It is empty, a comment
behind a `#`, one of four headers such as `start: q0` and `blank: _`, or a
transition such as `q0 1 -> q1 0 >`.

A line that opens with a keyword and a colon is a header, whatever comes after;
it is not tried as a transition again.  A line that makes no statement is
reported by an obstacle: what is missing, and what was left of the line at the
place where it is missing.
-/

namespace TapeMachine.Format

/-- The keywords of the four headers. -/
inductive Keyword where
  | start
  | accept
  | reject
  | blank
  deriving DecidableEq

namespace Keyword

/-- The letters of a keyword. -/
def letters : Keyword → List Char
  | start => ['s', 't', 'a', 'r', 't']
  | accept => ['a', 'c', 'c', 'e', 'p', 't']
  | reject => ['r', 'e', 'j', 'e', 'c', 't']
  | blank => ['b', 'l', 'a', 'n', 'k']

/-- A keyword as it is written. -/
def name (keyword : Keyword) : String :=
  String.ofList keyword.letters

/-- The four keywords, in the order in which their headers are asked for. -/
def all : List Keyword :=
  [start, accept, reject, blank]

/-- The text after a keyword, its colon, and the gaps around the colon. -/
def value? (keyword : Keyword) (line : List Char) : Option (List Char) := do
  let afterName ← afterMark? keyword.letters line
  let afterColon ← afterMark? [':'] (skipGap afterName)
  return skipGap afterColon

/-- The keyword a line opens with, and the text of its value. -/
def opening? (line : List Char) : Option (Keyword × List Char) :=
  all.findSome? fun keyword => (keyword.value? line).map (keyword, ·)

end Keyword

/-- A header with its value. -/
inductive Header where
  | start (state : String)
  | accept (state : String)
  | reject (state : String)
  | blank (symbol : Symbol)
  deriving DecidableEq

namespace Header

/-- The keyword of a header. -/
def keyword : Header → Keyword
  | start _ => .start
  | accept _ => .accept
  | reject _ => .reject
  | blank _ => .blank

/-- The state named by the header `start:`. -/
def start? : Header → Option String
  | start state => some state
  | _ => none

/-- The state named by the header `accept:`. -/
def accept? : Header → Option String
  | accept state => some state
  | _ => none

/-- The state named by the header `reject:`. -/
def reject? : Header → Option String
  | reject state => some state
  | _ => none

/-- The symbol named by the header `blank:`. -/
def blank? : Header → Option Symbol
  | blank symbol => some symbol
  | _ => none

end Header

/-- What one line of a description file says. -/
inductive Statement where
  | empty
  | comment
  | header (header : Header)
  | transition (transition : Transition)
  deriving DecidableEq

namespace Statement

/-- The header a statement makes. -/
def header? : Statement → Option Header
  | header made => some made
  | _ => none

/-- The transition a statement makes. -/
def transition? : Statement → Option Transition
  | transition made => some made
  | _ => none

end Statement

/-- What a line lacks where reading it gets stuck. -/
inductive Lack where
  /-- The line begins with a colon, which begins nothing. -/
  | opening
  /-- The line begins like a transition but has no arrow, and it is no header. -/
  | statement
  | state
  | symbol
  | direction
  /-- The end of the line: a whole statement is followed by more text. -/
  | lineEnd
  deriving DecidableEq

/-- Why a line makes no statement. -/
structure Obstacle where
  lack : Lack
  /-- What is left of the line where it is missing. -/
  rest : List Char
  deriving DecidableEq

/-- Reads a token, or reports that it is missing. -/
def require {α : Type} (lack : Lack) (token? : List Char → Option (α × List Char))
    (text : List Char) : Except Obstacle (α × List Char) :=
  match token? text with
  | some found => .ok found
  | none => .error { lack, rest := text }

/-- Checks that only a gap is left of the line. -/
def requireEnd {α : Type} (made : α) (text : List Char) : Except Obstacle α :=
  match skipGap text with
  | [] => .ok made
  | rest => .error { lack := .lineEnd, rest }

/-- Reads the value of a header. -/
def readHeader (keyword : Keyword) (value : List Char) : Except Obstacle (Header × List Char) :=
  match keyword with
  | .start => (require .state stateName? value).map (Prod.map Header.start id)
  | .accept => (require .state stateName? value).map (Prod.map Header.accept id)
  | .reject => (require .state stateName? value).map (Prod.map Header.reject id)
  | .blank => (require .symbol symbol? value).map (Prod.map Header.blank id)

/-- Reads a transition from a line that begins with no gap. -/
def readTransition (line : List Char) : Except Obstacle (Transition × List Char) := do
  let (state, rest) ← require .opening stateName? line
  let (symbol, rest) ← require .symbol symbol? (skipGap rest)
  match afterMark? ['-', '>'] (skipGap rest) with
  | none => .error { lack := .statement, rest := line }
  | some rest =>
    let (next, rest) ← require .state stateName? (skipGap rest)
    let (write, rest) ← require .symbol symbol? (skipGap rest)
    let (direction, rest) ← require .direction direction? (skipGap rest)
    return ({ state, symbol, next, write, direction }, rest)

/-- Reads what a line says. -/
def Statement.read (line : List Char) : Except Obstacle Statement :=
  match skipGap line with
  | [] => .ok .empty
  | '#' :: _ => .ok .comment
  | body =>
    match Keyword.opening? body with
    | some (keyword, value) => do
      let (made, rest) ← readHeader keyword value
      requireEnd (.header made) rest
    | none => do
      let (made, rest) ← readTransition body
      requireEnd (.transition made) rest

end TapeMachine.Format
