import TapeMachine.Json.Quantity

/-!
# Strict documents

A strict document means something to every reader: its strings are texts, its
numerals are within the binary64 range, and its arrays and objects are nested
no deeper than a limit.
-/

namespace TapeMachine.Json

/-- How deep a strict document may be nested. -/
def depthLimit : Nat := 127

mutual

/-- Whether a value is strict when at most `room` more levels may be nested. -/
def Value.isStrictWithin (room : Nat) : Value → Bool
  | .null => true
  | .bool _ => true
  | .number numeral => numeral.quantity?.isSome
  | .string parts => (text? parts).isSome
  | .array elements => 0 < room && areStrictWithin (room - 1) elements
  | .object members => 0 < room && haveStrictWithin (room - 1) members

/-- Whether all elements are strict. -/
def areStrictWithin (room : Nat) : List Value → Bool
  | [] => true
  | element :: rest => element.isStrictWithin room && areStrictWithin room rest

/-- Whether all members are strict, their names included. -/
def haveStrictWithin (room : Nat) : List (List StringPart × Value) → Bool
  | [] => true
  | (name, value) :: rest =>
    (text? name).isSome && value.isStrictWithin room && haveStrictWithin room rest

end

/-- Whether a value is strict. -/
def Value.isStrict (value : Value) : Bool :=
  value.isStrictWithin depthLimit

end TapeMachine.Json
