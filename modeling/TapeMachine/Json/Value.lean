import TapeMachine.Number.Decimal

/-!
# JSON documents

A document is kept as it was written: numerals digit by digit, and strings with
their `\u` escapes, each of which stands for one 16-bit unit.  Two such units
can make one character, and a unit can make none.  A document is *strict* when
it means something to everyone: all its strings are texts, all its numerals are
within the binary64 range, and it is nested at most 127 deep.
-/

namespace TapeMachine.Json

/-- One part of a string literal. -/
inductive StringPart where
  | char (c : Char)
  /-- A 16-bit unit, written as a `\u` escape. -/
  | unit (code : Nat)
  deriving DecidableEq

/-- Whether a unit is the first half of a character. -/
def isHighHalf (code : Nat) : Bool :=
  0xd800 ≤ code && code ≤ 0xdbff

/-- Whether a unit is the second half of a character. -/
def isLowHalf (code : Nat) : Bool :=
  0xdc00 ≤ code && code ≤ 0xdfff

/-- The character made of two halves. -/
def joinHalves (high low : Nat) : Char :=
  Char.ofNat (0x10000 + (high - 0xd800) * 0x400 + (low - 0xdc00))

/-- The text of a string literal; there is none if a half of a character stands alone. -/
def text? : List StringPart → Option (List Char)
  | [] => some []
  | .char c :: rest => (text? rest).map (c :: ·)
  | .unit high :: .unit low :: rest =>
    if isHighHalf high then
      if isLowHalf low then (text? rest).map (joinHalves high low :: ·) else none
    else if isLowHalf high then none
    else (text? (.unit low :: rest)).map (Char.ofNat high :: ·)
  | .unit code :: rest =>
    if isHighHalf code || isLowHalf code then none
    else (text? rest).map (Char.ofNat code :: ·)

/-- A numeral, by its digits. -/
structure Numeral where
  negative : Bool
  whole : List Nat
  /-- The digits after its point; none if it has no point. -/
  fraction : List Nat
  /-- The power of ten behind its `e`, if it has one. -/
  exponent? : Option Int
  deriving DecidableEq

/-- A JSON value as it was written. -/
inductive Value where
  | null
  | bool (value : Bool)
  | number (numeral : Numeral)
  | string (parts : List StringPart)
  | array (elements : List Value)
  /-- An object, its members in the order they were written. -/
  | object (members : List (List StringPart × Value))

/-- The string that holds a text. -/
def Value.ofText (text : String) : Value :=
  .string (text.toList.map .char)

end TapeMachine.Json
