import TapeMachine.Description
import TapeMachine.Json.Value

/-!
# Descriptions as documents

A record becomes an object with a member for each field, in the order of the
fields; a symbol becomes a string of one character, and a movement its name.
-/

namespace TapeMachine.Json

/-- A member of an object. -/
def memberOf (name : String) (value : Value) : List StringPart × Value :=
  (name.toList.map .char, value)

/-- A symbol as a document. -/
def encodeSymbol (symbol : Symbol) : Value :=
  .string [.char symbol]

/-- A movement as a document. -/
def encodeDirection (direction : Direction) : Value :=
  .ofText direction.name

/-- A transition as a document. -/
def encodeTransition (transition : Transition) : Value :=
  .object [
    memberOf "state" (.ofText transition.state),
    memberOf "symbol" (encodeSymbol transition.symbol),
    memberOf "next_state" (.ofText transition.next),
    memberOf "write" (encodeSymbol transition.write),
    memberOf "direction" (encodeDirection transition.direction)]

/-- A description as a document. -/
def encodeDescription (description : Description) : Value :=
  .object [
    memberOf "start" (.ofText description.start),
    memberOf "accept" (.ofText description.accept),
    memberOf "reject" (.ofText description.reject),
    memberOf "blank" (encodeSymbol description.blank),
    memberOf "transitions" (.array (description.transitions.map encodeTransition))]

end TapeMachine.Json
