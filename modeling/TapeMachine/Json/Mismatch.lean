import TapeMachine.Json.Quantity
import TapeMachine.Text.Quoted

/-!
# Documents of the wrong shape

A well-formed document need not describe a machine.  A mismatch says where its
shape departs from the shape wanted, and the first one in the order of the
document is reported.
-/

namespace TapeMachine.Json

/-- A structure read from an object, or from an array of its fields in order. -/
inductive Record where
  | description
  | transition
  deriving DecidableEq

/-- The name of a record in a message. -/
def Record.name : Record → String
  | description => "struct MachineDescription"
  | transition => "struct Transition"

/-- A shape wanted at a place of a document. -/
inductive Shape where
  | text
  | character
  | sequence
  | record (record : Record)
  | nothing
  deriving DecidableEq

/-- A shape in words. -/
def Shape.name : Shape → String
  | text => "a string"
  | character => "a character"
  | sequence => "a sequence"
  | record wanted => wanted.name
  | nothing => "unit"

/-- What was found at a place of a document. -/
inductive Found where
  | null
  | bool (value : Bool)
  | quantity (quantity : Quantity)
  | text (text : String)
  | sequence
  | map
  deriving DecidableEq

/-- A quantity in words. -/
def Quantity.name : Quantity → String
  | integer value => "integer `" ++ toString value ++ "`"
  | float negative magnitude =>
    let sign := if negative then "-" else ""
    "floating point `" ++ sign ++ String.ofList magnitude.digits ++ "`"

/-- What was found, in words. -/
def Found.name : Found → String
  | null => "null"
  | bool value => "boolean `" ++ (if value then "true" else "false") ++ "`"
  | quantity found => found.name
  | text found => "string " ++ Text.quotedString found
  | sequence => "sequence"
  | map => "map"

/-- A departure from the shape wanted. -/
inductive Mismatch where
  | wrongType (found : Found) (wanted : Shape)
  /-- A string was found that is not of one character. -/
  | notOneCharacter (text : String)
  | repeatedField (name : String)
  | missingField (name : String)
  /-- An array is too short for a record. -/
  | tooShort (length : Nat) (record : Record)
  /-- An array is too long for a record. -/
  | tooLong
  | unknownDirection (name : String)
  /-- Neither a string nor an object of one member stands for a head movement. -/
  | noDirection
  /-- A string is no text, or a numeral is beyond the binary64 range. -/
  | meaningless
  deriving DecidableEq

/-- A mismatch in words. -/
def Mismatch.message : Mismatch → String
  | wrongType found wanted => "invalid type: " ++ found.name ++ ", expected " ++ wanted.name
  | notOneCharacter text =>
    "invalid value: string " ++ Text.quotedString text ++ ", expected a character"
  | repeatedField name => "duplicate field `" ++ name ++ "`"
  | missingField name => "missing field `" ++ name ++ "`"
  | tooShort length record =>
    "invalid length " ++ toString length ++ ", expected " ++ record.name ++ " with 5 elements"
  | tooLong => "trailing characters"
  | unknownDirection name =>
    "unknown variant `" ++ name ++ "`, expected one of `Left`, `Right`, `Stay`"
  | noDirection => "expected value"
  | meaningless => "meaningless literal"

/-- What a value is found to be; a mismatch if it means nothing. -/
def Found.ofValue : Value → Except Mismatch Found
  | .null => .ok .null
  | .bool value => .ok (.bool value)
  | .number numeral =>
    match numeral.quantity? with
    | some found => .ok (.quantity found)
    | none => .error .meaningless
  | .string parts =>
    match text? parts with
    | some found => .ok (.text (String.ofList found))
    | none => .error .meaningless
  | .array _ => .ok .sequence
  | .object _ => .ok .map

/-- The mismatch of a value that is not of the shape wanted. -/
def wrongShape {α : Type} (value : Value) (wanted : Shape) : Except Mismatch α := do
  let found ← Found.ofValue value
  throw (.wrongType found wanted)

end TapeMachine.Json
