import TapeMachine.Format.Line
import TapeMachine.Format.Statement

/-!
# Reports on a description text

A report names a place in a text, shows the line it lies in with a mark under
the place, and says what is wrong there.  Two things can be: a line makes no
statement, and then the report lists what could have stood at the place where
reading got stuck; or a header is given a second time, and then the report
spans that header.

Places count lines by their line feeds alone, so a carriage return without a
line feed is one more column of its line, although it ends a line for the
reader.
-/

namespace TapeMachine.Format

/-- A place in a text: its line and its column, both counted from one. -/
structure Place where
  line : Nat
  column : Nat
  deriving DecidableEq

/-- The characters of the text after the last line feed among its first `offset` ones. -/
def lineBefore (source : List Char) (offset : Nat) : List Char :=
  ((source.take offset).reverse.takeWhile (· != '\n')).reverse

/-- The characters from an offset on up to the next line feed, this one included. -/
def lineAfter (source : List Char) (offset : Nat) : List Char :=
  let after := source.drop offset
  after.takeWhile (· != '\n') ++ (after.dropWhile (· != '\n')).take 1

/-- The place of the character with `offset` characters before it. -/
def Place.ofOffset (source : List Char) (offset : Nat) : Place where
  line := (source.take offset).count '\n' + 1
  column := (lineBefore source offset).length + 1

/-- Whether a character ends a line, alone or with another. -/
def isLineEnd (c : Char) : Bool :=
  c == '\n' || c == '\r'

/-- A line end as a visible character. -/
def pictured (c : Char) : Char :=
  if c = '\r' then '␍' else if c = '\n' then '␊' else c

/--
The line around a place, as it is shown: without its line end, unless the place
is at the line end itself, which is then pictured.
-/
def excerpt (source : List Char) (offset : Nat) : List Char :=
  let line := lineBefore source offset ++ lineAfter source offset
  match source.drop offset with
  | c :: _ => if isLineEnd c then line.map pictured else line.filter (!isLineEnd ·)
  | [] => line.filter (!isLineEnd ·)

/-- A part of a description that can be expected at a place. -/
inductive Part where
  | finish
  | state
  | symbol
  | direction
  | header (keyword : Keyword)
  | transition
  | description
  deriving DecidableEq

/-- The name of a part in a report. -/
def Part.name : Part → String
  | finish => "EOI"
  | state => "state"
  | symbol => "symbol"
  | direction => "direction"
  | header keyword => keyword.name
  | transition => "transition"
  | description => "description"

/--
The parts that could have stood where a line lacks something.  Where the very
first line begins no statement, no description begins there either, and this is
all that is said.
-/
def Lack.parts (atTextStart : Bool) : Lack → List Part
  | opening =>
    if atTextStart then [.description]
    else .finish :: .state :: Keyword.all.map .header
  | statement =>
    if atTextStart then [.description]
    else .finish :: (Keyword.all.map .header ++ [.transition])
  | state => [.state]
  | symbol => [.symbol]
  | direction => [.direction]
  | lineEnd => [.finish]

/-- What is wrong at a place. -/
inductive Complaint where
  | expected (parts : List Part)
  | repeated (keyword : Keyword)
  | endOfLine
  | noMovement
  | unsupported (mark : List Char)
  deriving DecidableEq

/-- Names in a row, the last behind `or`. -/
def alternatives : List String → String
  | [] => ""
  | [only] => only
  | [first, last] => first ++ " or " ++ last
  | names => ", ".intercalate names.dropLast ++ ", or " ++ names.getLastD ""

/-- A complaint in words. -/
def Complaint.message : Complaint → String
  | expected parts => "expected " ++ alternatives (parts.map Part.name)
  | repeated keyword => "Duplicate \"" ++ keyword.name ++ ":\" declaration"
  | endOfLine => "Unexpected end of line"
  | noMovement => "Missing head movement"
  | unsupported mark => "Unsupported direction: " ++ String.ofList mark

/-- A complaint about a place in a text. -/
structure Report where
  place : Place
  /-- The column after the last one complained about, if more than a place is meant. -/
  endColumn? : Option Nat
  excerpt : List Char
  complaint : Complaint
  deriving DecidableEq

namespace Report

/-- The report on a line that makes no statement. -/
def ofObstacle (source : List Char) (line : Line) (obstacle : Obstacle) : Report :=
  let offset := line.offset + (line.text.length - obstacle.rest.length)
  {
    place := .ofOffset source offset
    endColumn? := none
    excerpt := Format.excerpt source offset
    complaint := .expected (obstacle.lack.parts (offset == 0))
  }

/-- The report on a line that gives a header a second time. -/
def ofRepeated (source : List Char) (line : Line) (keyword : Keyword) : Report :=
  let offset := line.offset + (line.text.takeWhile isGap).length
  let place := Place.ofOffset source offset
  {
    place
    endColumn? := some (place.column + (trimGaps line.text).length)
    excerpt := Format.excerpt source offset
    complaint := .repeated keyword
  }

/-- The mark under the excerpt. -/
def mark (report : Report) : List Char :=
  match report.endColumn? with
  | none => ['^', '-', '-', '-']
  | some endColumn =>
    let width := endColumn - report.place.column
    if width ≤ 1 then ['^'] else '^' :: (List.replicate (width - 2) '-' ++ ['^'])

/-- The line of the mark: as wide as the excerpt before it, tabs kept as tabs. -/
def underline (report : Report) : List Char :=
  let before := (report.excerpt.take (report.place.column - 1)).map fun c =>
    if c = '\t' then '\t' else ' '
  before ++ report.mark

/-- The report as several lines of text. -/
def render (report : Report) : String :=
  let line := toString report.place.line
  let margin := String.ofList (List.replicate line.length ' ')
  margin ++ "--> " ++ line ++ ":" ++ toString report.place.column ++ "\n" ++
    margin ++ " |\n" ++
    line ++ " | " ++ String.ofList report.excerpt ++ "\n" ++
    margin ++ " | " ++ String.ofList report.underline ++ "\n" ++
    margin ++ " |\n" ++
    margin ++ " = " ++ report.complaint.message

end Report

end TapeMachine.Format
