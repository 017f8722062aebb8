import TapeMachine.Number.Decimal

/-!
# Numbers on the command line

A step limit is a natural number below 2^64 in decimal digits.  A delay is a
number of seconds in decimal notation, rounded to binary64; the words for
infinity and for no number are numbers too, but no delays, and neither is a
negative number.
-/

namespace TapeMachine.CommandLine

/-- Why a text is no step limit. -/
inductive CountFault where
  | empty
  | notDigit
  | tooLarge
  deriving DecidableEq

/-- A fault of a step limit in words. -/
def CountFault.message : CountFault → String
  | empty => "cannot parse integer from empty string"
  | notDigit => "invalid digit found in string"
  | tooLarge => "number too large to fit in target type"

/-- Appends the digits of a text to a number, up to the first fault. -/
def readCountDigits (number : Nat) : List Char → Except CountFault Nat
  | [] => .ok number
  | c :: rest =>
    match Decimal.digit? c with
    | none => .error .notDigit
    | some digit =>
      if 10 * number + digit < Nat.pow 2 64 then readCountDigits (10 * number + digit) rest
      else .error .tooLarge

/-- A step limit; it may have a plus sign. -/
def readCount : List Char → Except CountFault Nat
  | [] => .error .empty
  | ['+'] => .error .notDigit
  | '+' :: digits => readCountDigits 0 digits
  | digits => readCountDigits 0 digits

/-- Why a text is no delay. -/
inductive DelayFault where
  | empty
  | notNumber
  | notDuration
  deriving DecidableEq

/-- A number in decimal notation. -/
inductive RealLiteral where
  | finite (negative : Bool) (magnitude : Decimal)
  /-- Infinity, or no number. -/
  | special
  deriving DecidableEq

/-- The digits behind a point, if a point follows. -/
def takeFraction : List Char → List Nat × List Char
  | '.' :: rest => Decimal.takeDigits rest
  | text => ([], text)

/-- The whole of a text as a power of ten: nothing, or an `e` and an integer. -/
def readPower? : List Char → Option Int
  | [] => some 0
  | c :: rest =>
    if c = 'e' ∨ c = 'E' then
      match Decimal.takeInteger? rest with
      | some (power, []) => some power
      | _ => none
    else none

/-- A magnitude: digits with or without a point, at least one digit, and a power of ten. -/
def readMagnitude? (text : List Char) : Option Decimal :=
  let (whole, rest) := Decimal.takeDigits text
  let (fraction, rest) := takeFraction rest
  if (whole ++ fraction).isEmpty then none
  else
    (readPower? rest).map fun power =>
      { coefficient := Decimal.ofDigits (whole ++ fraction), exponent := power - fraction.length }

/-- Whether a text is a word for infinity or for no number, in letters of either case. -/
def isSpecial (text : List Char) : Bool :=
  let lower := text.map Char.toLower
  lower == ['i', 'n', 'f'] || lower == ['i', 'n', 'f', 'i', 'n', 'i', 't', 'y'] ||
    lower == ['n', 'a', 'n']

/-- A number with a sign. -/
def readReal? (text : List Char) : Option RealLiteral :=
  let (negative, magnitude) := Decimal.takeSign text
  if isSpecial magnitude then some .special
  else (readMagnitude? magnitude).map (.finite negative)

/-- A delay; a negative number so small that it rounds to zero is one. -/
def readDelay (text : List Char) : Except DelayFault Binary64 :=
  if text.isEmpty then .error .empty
  else
    match readReal? text with
    | none => .error .notNumber
    | some .special => .error .notDuration
    | some (.finite negative decimal) =>
      match decimal.toBinary64? with
      | none => .error .notDuration
      | some seconds =>
        if negative && !seconds.isZero then .error .notDuration else .ok seconds

end TapeMachine.CommandLine
