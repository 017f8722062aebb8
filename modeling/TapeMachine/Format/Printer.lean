import TapeMachine.Description
import TapeMachine.Format.Statement

/-!
# Writing descriptions

The standard form of a description: its four headers, then its transitions, one
statement a line and every line ended.
-/

namespace TapeMachine.Format

/-- A header as a line. -/
def headerLine (keyword : Keyword) (value : List Char) : List Char :=
  keyword.letters ++ ':' :: ' ' :: value

/-- The lines of a description. -/
def linesOf (description : Description) : List (List Char) :=
  headerLine .start description.start.toList ::
    headerLine .accept description.accept.toList ::
    headerLine .reject description.reject.toList ::
    headerLine .blank [description.blank] ::
    description.transitions.map (·.line.toList)

end TapeMachine.Format

/-- The text of a description. -/
def TapeMachine.Description.format (description : Description) : String :=
  String.ofList ((Format.linesOf description).flatMap (· ++ ['\n']))
