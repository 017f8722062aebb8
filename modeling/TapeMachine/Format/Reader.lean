import TapeMachine.Error
import TapeMachine.Text.WhiteSpace

/-!
# Reading descriptions

A description text is read line by line, white space around the whole of it left
out.  Of several faults the first of this order is reported: too many bytes; the
first line that makes no statement; the first header given again; the first
header of `start`, `accept`, `reject`, `blank` that is missing.
-/

namespace TapeMachine.Format

/-- What every line says, or the first line that says nothing and why. -/
def readLines : List Line → Except (Line × Obstacle) (List (Line × Statement))
  | [] => .ok []
  | line :: rest =>
    match Statement.read line.text with
    | .error obstacle => .error (line, obstacle)
    | .ok statement => (readLines rest).map ((line, statement) :: ·)

/-- The first line whose header was seen before, given the keywords seen so far. -/
def repeatedHeader? (seen : List Keyword) : List (Line × Statement) → Option (Line × Keyword)
  | [] => none
  | (line, statement) :: rest =>
    match statement.header? with
    | none => repeatedHeader? seen rest
    | some header =>
      if header.keyword ∈ seen then some (line, header.keyword)
      else repeatedHeader? (header.keyword :: seen) rest

/-- The value of a header, or its keyword if it is missing. -/
def headerValue {α : Type} (keyword : Keyword) (value? : Header → Option α)
    (statements : List Statement) : Except Keyword α :=
  match statements.findSome? fun statement => statement.header?.bind value? with
  | some value => .ok value
  | none => .error keyword

/-- The description that some statements make, or the keyword of a missing header. -/
def assemble (statements : List Statement) : Except Keyword Description := do
  let start ← headerValue .start Header.start? statements
  let accept ← headerValue .accept Header.accept? statements
  let reject ← headerValue .reject Header.reject? statements
  let blank ← headerValue .blank Header.blank? statements
  return { start, accept, reject, blank, transitions := statements.filterMap (·.transition?) }

end TapeMachine.Format

namespace TapeMachine.Description

open Format

/-- The description a text makes once white space around it is left out. -/
def parseTrimmed (source : List Char) : Except MachineError Description :=
  match readLines (Line.cut 0 source) with
  | .error (line, obstacle) => .error (.report (.ofObstacle source line obstacle))
  | .ok readings =>
    match repeatedHeader? [] readings with
    | some (line, keyword) => .error (.report (.ofRepeated source line keyword))
    | none =>
      match assemble (readings.map Prod.snd) with
      | .ok description => .ok description
      | .error keyword => .error (.invalid (.missing keyword))

/-- The description a text makes. -/
def parse (text : String) : Except MachineError Description :=
  if sizeLimit < text.utf8ByteSize then .error (.invalid (.tooLarge text.utf8ByteSize))
  else parseTrimmed (Text.trim text.toList)

end TapeMachine.Description
