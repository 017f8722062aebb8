import TapeMachine.Format.Tree
import TapeMachine.Text.WhiteSpace

/-!
# The grammar as an expression

The reader of a description knows at every place of a line what it is looking
for.  The grammar itself knows less: it is an expression that is tried against a
whole text, part by part, and where one part fails the next alternative is tried
from the same place.  An alternative that was taken is not taken back.

What is found are the trees of the parts, and a description is collected from them.
This is the longer way to read a text; it comes to what reading line by line comes to.

Most failures are of no interest, since another alternative went on.  A record is
kept of the parts that failed, but only of those that failed furthest on in the
text, and when the description as a whole fails, this record is what is reported.
-/

namespace TapeMachine.Format

/-! ## Failed attempts -/

/-- The parts that failed furthest on in a text. -/
structure Attempts where
  /-- How many characters of the text were left where the parts failed. -/
  left : Nat
  parts : List Part
  deriving DecidableEq

namespace Attempts

/-- The record before anything was tried: the beginning of the text, and no failure. -/
def initial (source : List Char) : Attempts where
  left := source.length
  parts := []

/-- How many failures are on record for the place with so many characters left. -/
def countAt (attempts : Attempts) (left : Nat) : Nat :=
  if attempts.left = left then attempts.parts.length else 0

/--
The record after a part failed, from the records before and after its own parts
were tried.  A single failure of these where the part begins stands for the part;
several are replaced by it.
-/
def track (part : Part) (left : Nat) (before after : Attempts) : Attempts :=
  if after.countAt left = before.countAt left + 1 then after
  else if left < after.left then { left, parts := [part] }
  else if left = after.left then
    { left, parts := after.parts.take (before.countAt left) ++ [part] }
  else after

/-- What could have stood where the failures on record occurred. -/
def expected (attempts : Attempts) : List Part :=
  (.finish :: .state :: .symbol :: .direction ::
      (Keyword.all.map .header ++ [.transition, .description])).filter
    (· ∈ attempts.parts)

end Attempts

/-! ## Expressions -/

/-- An expression that a text can begin with. -/
inductive Expression where
  /-- Nothing, at the beginning of the text. -/
  | textStart
  /-- Nothing, at the end of the text. -/
  | textEnd
  | any
  | mark (text : List Char)
  | seq (first second : Expression)
  | choice (first second : Expression)
  | optional (body : Expression)
  /-- As often as possible, and possibly not at all. -/
  | many (body : Expression)
  /-- Nothing, where the body does not match. -/
  | except (body : Expression)
  /-- A part of the description, of which failures are recorded. -/
  | rule (part : Part) (body : Expression)
  /-- A part in which no gap is skipped and nothing is recorded. -/
  | token (part : Part) (body : Expression)

/--
What an attempt finds and what it leaves of the text, if it succeeds, and the record
after it.
-/
abbrev Outcome :=
  Option (List Tree × List Char) × Attempts

/-- An outcome behind what was found before. -/
def behind (trees : List Tree) : Outcome → Outcome
  | (none, attempts) => (none, attempts)
  | (some (later, rest), attempts) => (some (trees ++ later, rest), attempts)

/-- An attempt repeated until it fails or does not go on. -/
def repeated
    (attempt : List Char → Attempts → Outcome) (text : List Char) (attempts : Attempts) :
    Outcome :=
  match attempt text attempts with
  | (none, attempts) => (some ([], text), attempts)
  | (some (trees, rest), attempts) =>
    if rest.length < text.length then behind trees (repeated attempt rest attempts)
    else (some (trees, rest), attempts)
termination_by text.length

/--
The outcome of a part that was tried where a text of `size` characters goes on: one
tree if it was found, and otherwise the failure is written down.
-/
def tracked (size : Nat) (part : Part) (text : List Char) (before : Attempts) :
    Outcome → Outcome
  | (some (inner, rest), after) => (some ([.found size part text rest inner], rest), after)
  | (none, after) => (none, before.track part text.length after)

namespace Expression

/-- What stands between two expressions in a row: a gap, but nothing in a token. -/
def between (inToken : Bool) (text : List Char) : List Char :=
  if inToken then text else skipGap text

/-- Tries an expression where a text of `size` characters goes on with the given characters. -/
@[simp]
def run (size : Nat) : Expression → Bool → List Char → Attempts → Outcome
  | textStart, _, text, attempts =>
    (if text.length = size then some ([], text) else none, attempts)
  | textEnd, _, text, attempts => (if text = [] then some ([], text) else none, attempts)
  | any, _, text, attempts => (text.tail?.map ([], ·), attempts)
  | mark expected, _, text, attempts => ((afterMark? expected text).map ([], ·), attempts)
  | seq first second, inToken, text, attempts =>
    match run size first inToken text attempts with
    | (none, attempts) => (none, attempts)
    | (some (trees, rest), attempts) =>
      behind trees (run size second inToken (between inToken rest) attempts)
  | choice first second, inToken, text, attempts =>
    match run size first inToken text attempts with
    | (none, attempts) => run size second inToken text attempts
    | (some found, attempts) => (some found, attempts)
  | optional body, inToken, text, attempts =>
    match run size body inToken text attempts with
    | (none, attempts) => (some ([], text), attempts)
    | (some found, attempts) => (some found, attempts)
  | many body, inToken, text, attempts =>
    match run size body inToken text attempts with
    | (none, attempts) => (some ([], text), attempts)
    | (some (trees, rest), attempts) =>
      behind trees
        (repeated (fun rest => run size body inToken (between inToken rest)) rest attempts)
  | except body, inToken, text, attempts =>
    (if (run size body inToken text attempts).1.isNone then some ([], text) else none,
      attempts)
  | rule part body, inToken, text, attempts =>
    if inToken then run size body inToken text attempts
    else tracked size part text attempts (run size body inToken text attempts)
  | token part body, inToken, text, attempts =>
    if inToken then run size body true text attempts
    else tracked size part text attempts (run size body true text attempts)

/-! ## The grammar -/

/-- A space or a tab. -/
def gap : Expression :=
  choice (mark [' ']) (mark ['\t'])

/-- A line end of any kind. -/
def lineEnd : Expression :=
  choice (mark ['\n']) (choice (mark ['\r', '\n']) (mark ['\r']))

/-- At least once, and as often as possible. -/
def atLeastOnce (body : Expression) : Expression :=
  seq body (many body)

/-- A state name. -/
def state : Expression :=
  token .state (atLeastOnce (seq (except (choice gap (choice lineEnd (mark [':'])))) any))

/-- A symbol. -/
def symbol : Expression :=
  token .symbol (seq (except (choice gap lineEnd)) any)

/-- A head movement. -/
def direction : Expression :=
  rule .direction (choice (mark ['<']) (choice (mark ['>']) (mark ['^'])))

/-- The value of a header. -/
def value : Keyword → Expression
  | .start | .accept | .reject => state
  | .blank => symbol

/-- A header. -/
def header (keyword : Keyword) : Expression :=
  rule (.header keyword) (seq (mark keyword.letters) (seq (mark [':']) (value keyword)))

/-- A transition. -/
def transition : Expression :=
  rule .transition
    (seq state (seq symbol (seq (mark ['-', '>']) (seq state (seq symbol direction)))))

/-- A comment. -/
def comment : Expression :=
  seq (mark ['#']) (many (seq (except lineEnd) any))

/-- A statement that is no comment: the first of the headers and the transition. -/
def statement : Expression :=
  choice (header .start)
    (choice (header .accept) (choice (header .reject) (choice (header .blank) transition)))

/-- A line that is not empty. -/
def line : Expression :=
  choice comment statement

/-- A line with its end; the line can be empty. -/
def endedLine : Expression :=
  seq (optional line) lineEnd

/-- The last line, with the end of the text. -/
def lastLine : Expression :=
  seq (optional line) (rule .finish textEnd)

/-- A whole description. -/
def description : Expression :=
  rule .description (seq textStart (seq (many endedLine) lastLine))

end Expression

/-- The report on a text on which the attempts failed. -/
def Report.ofAttempts (source : List Char) (attempts : Attempts) : Report :=
  let offset := source.length - attempts.left
  {
    place := .ofOffset source offset
    endColumn? := none
    excerpt := Format.excerpt source offset
    complaint := .expected attempts.expected
  }

end TapeMachine.Format

namespace TapeMachine.Description

open Format

/-- The description that is collected from what the grammar finds in a text. -/
def parseTree (source : List Char) : Except MachineError Description :=
  match Expression.description.run source.length false source (.initial source) with
  | (none, attempts) => .error (.report (.ofAttempts source attempts))
  | (some ([], _), _) => .error (.invalid .empty)
  | (some (root :: _, _), _) => root.description source

/-- The description a text makes by the grammar. -/
def parseByGrammar (text : String) : Except MachineError Description :=
  if sizeLimit < text.utf8ByteSize then .error (.invalid (.tooLarge text.utf8ByteSize))
  else parseTree (Text.trim text.toList)

end TapeMachine.Description
