import TapeMachine.Number.Binary64

/-!
# Decimal numbers

A decimal is a coefficient times a power of ten, as it is written down.  Its
nearest binary64 number is found exactly; decimals that are so large or so small
that only their size matters are set apart first, so that no huge power of ten
is ever computed.
-/

namespace TapeMachine

/-- The number `coefficient * 10 ^ exponent`. -/
structure Decimal where
  coefficient : Nat
  exponent : Int
  deriving DecidableEq

namespace Decimal

/-- The natural number with the given decimal digits. -/
def ofDigits (digits : List Nat) : Nat :=
  digits.foldl (fun number digit => 10 * number + digit) 0

/-- The value of a decimal digit. -/
def digit? (c : Char) : Option Nat :=
  if '0' ≤ c ∧ c ≤ '9' then some (c.toNat - '0'.toNat) else none

/-- The decimal digits at the front of a text, and what follows them. -/
def takeDigits : List Char → List Nat × List Char
  | [] => ([], [])
  | c :: rest =>
    match digit? c with
    | none => ([], c :: rest)
    | some digit =>
      let (digits, rest) := takeDigits rest
      (digit :: digits, rest)

/-- The sign at the front of a text, whether it is a minus sign, and what follows it. -/
def takeSign : List Char → Bool × List Char
  | '-' :: rest => (true, rest)
  | '+' :: rest => (false, rest)
  | text => (false, text)

/-- The integer at the front of a text, with a sign or without one, and what follows it. -/
def takeInteger? (text : List Char) : Option (Int × List Char) :=
  let (negative, text) := takeSign text
  match takeDigits text with
  | ([], _) => none
  | (digits, rest) =>
    let magnitude : Int := ofDigits digits
    some (if negative then -magnitude else magnitude, rest)

/-- How many decimal digits a natural number has; zero has none. -/
def digitCount (number : Nat) : Nat :=
  if number = 0 then 0 else (Nat.toDigits 10 number).length

/-- The decimal as an exact ratio. -/
def ratio (decimal : Decimal) : Nat × Nat :=
  if decimal.exponent < 0 then (decimal.coefficient, Nat.pow 10 (-decimal.exponent).toNat)
  else (decimal.coefficient * Nat.pow 10 decimal.exponent.toNat, 1)

/--
The nearest binary64 number, if the decimal is not beyond the format.  Below
10^-330 every decimal is nearest to zero, and from 10^310 on none is within the
format.
-/
def toBinary64? (decimal : Decimal) : Option Binary64 :=
  let order := (digitCount decimal.coefficient : Int) + decimal.exponent
  if decimal.coefficient = 0 ∨ order < -330 then Binary64.ofRatio? 0 1
  else if 310 < order then none
  else Binary64.ofRatio? decimal.ratio.1 decimal.ratio.2

end Decimal

end TapeMachine
