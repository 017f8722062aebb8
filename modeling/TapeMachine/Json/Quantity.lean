import TapeMachine.Json.Value
import TapeMachine.Number.Shortest

/-!
# What a numeral means

A numeral without point and exponent is an integer if it fits 64 bits, signed
when it is negative and unsigned when it is not.  Any other numeral is a
binary64 number: the digits that fit an unsigned 64-bit integer, from the left,
are rounded first, and the power of ten is applied to the result, rounding
again.  A numeral that leads beyond the binary64 range means nothing.
-/

namespace TapeMachine.Json

/-- The meaning of a numeral. -/
inductive Quantity where
  | integer (value : Int)
  | float (negative : Bool) (magnitude : Binary64)
  deriving DecidableEq

/-- One more than the largest unsigned 64-bit integer. -/
def wordLimit : Nat := Nat.pow 2 64

/-- Appends digits to a number as long as it fits an unsigned 64-bit integer. -/
def fittingDigits (number : Nat) : List Nat → Nat × List Nat
  | [] => (number, [])
  | digit :: rest =>
    if 10 * number + digit < wordLimit then fittingDigits (10 * number + digit) rest
    else (number, digit :: rest)

/-- The power of ten with a small exponent, rounded. -/
def powerOfTen? (exponent : Nat) : Option Binary64 :=
  Binary64.ofRatio? (Nat.pow 10 exponent) 1

/-- The number divided by 10^308 up to `count` times, as long as it is not zero. -/
def descend? : Nat → Binary64 → Option Binary64
  | 0, number => some number
  | count + 1, number =>
    if number.isZero then some number
    else do
      let divisor ← powerOfTen? 308
      let smaller ← number.div? divisor
      descend? count smaller

/-- A natural number times a power of ten, rounded at each operation. -/
def timesPowerOfTen? (significand : Nat) (exponent : Int) : Option Binary64 := do
  let number ← Binary64.ofRatio? significand 1
  if 0 ≤ exponent then
    if exponent ≤ 308 then
      let factor ← powerOfTen? exponent.toNat
      number.mul? factor
    else if number.isZero then some number
    else none
  else
    let power := exponent.natAbs
    let rounds := (power - 1) / 308
    let rest ← descend? rounds number
    if rest.isZero then some rest
    else
      let divisor ← powerOfTen? (power - 308 * rounds)
      rest.div? divisor

/-- The magnitude of a numeral as a binary64 number. -/
def Numeral.magnitude? (numeral : Numeral) : Option Binary64 :=
  let (whole, leftOut) := fittingDigits 0 numeral.whole
  let (significand, dropped) := fittingDigits whole numeral.fraction
  let places : Int := (numeral.fraction.length : Int) - dropped.length
  timesPowerOfTen? significand (numeral.exponent?.getD 0 + leftOut.length - places)

/-- The integer a numeral stands for, if it stands for one. -/
def Numeral.integer? (numeral : Numeral) : Option Int :=
  let value := Decimal.ofDigits numeral.whole
  if !numeral.fraction.isEmpty || numeral.exponent?.isSome then none
  else if numeral.negative then
    if 0 < value ∧ value ≤ Nat.pow 2 63 then some (-(value : Int)) else none
  else if value < wordLimit then some (value : Int)
  else none

/-- What a numeral means, if it is within the binary64 range. -/
def Numeral.quantity? (numeral : Numeral) : Option Quantity :=
  match numeral.integer? with
  | some value => some (.integer value)
  | none => numeral.magnitude?.map (.float numeral.negative)

end TapeMachine.Json
