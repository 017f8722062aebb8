/-!
# Binary64 numbers

The finite non-negative numbers of the 64-bit binary format, as exact numbers:
a significand below 2^53 times a power of two not below 2^-1074.  Every
operation is the exact one followed by rounding to the nearest number of the
format, a tie going to the even significand; it has no result when the exact
one lies beyond the largest number of the format.
-/

namespace TapeMachine

/-- The number `significand * 2 ^ exponent`. -/
structure Binary64 where
  /-- The significand, below 2^53; at least 2^52 unless the exponent is -1074. -/
  significand : Nat
  /-- The exponent, from -1074 to 971. -/
  exponent : Int
  deriving DecidableEq

namespace Binary64

/-- The quotient rounded to the nearest natural number, a tie going to the even one. -/
def roundedQuotient (numerator denominator : Nat) : Nat :=
  let quotient := numerator / denominator
  let twice := 2 * (numerator % denominator)
  if twice < denominator then quotient
  else if denominator < twice then quotient + 1
  else quotient + quotient % 2

/-- The ratio multiplied by a power of two. -/
def scaled (numerator denominator : Nat) (power : Int) : Nat × Nat :=
  if power < 0 then (numerator, denominator * Nat.pow 2 (-power).toNat)
  else (numerator * Nat.pow 2 power.toNat, denominator)

/-- The greatest power of two that is not above a positive ratio. -/
def binaryOrder (numerator denominator : Nat) : Int :=
  let estimate : Int := (numerator.log2 : Int) - denominator.log2
  let (scaledNumerator, scaledDenominator) := scaled numerator denominator (-estimate)
  if scaledNumerator < scaledDenominator then estimate - 1 else estimate

/-- The number nearest to a ratio, if it is within the format. -/
def ofRatio? (numerator denominator : Nat) : Option Binary64 :=
  if numerator = 0 then some { significand := 0, exponent := -1074 }
  else
    let exponent := max (binaryOrder numerator denominator - 52) (-1074)
    let (scaledNumerator, scaledDenominator) := scaled numerator denominator (-exponent)
    let significand := roundedQuotient scaledNumerator scaledDenominator
    let (significand, exponent) :=
      if significand = Nat.pow 2 53 then (Nat.pow 2 52, exponent + 1) else (significand, exponent)
    if 971 < exponent then none else some { significand, exponent }

/-- The number as an exact ratio. -/
def ratio (number : Binary64) : Nat × Nat :=
  scaled number.significand 1 number.exponent

/-- Whether a number is zero. -/
def isZero (number : Binary64) : Bool :=
  number.significand == 0

/-- The product of two numbers. -/
def mul? (left right : Binary64) : Option Binary64 :=
  ofRatio? (left.ratio.1 * right.ratio.1) (left.ratio.2 * right.ratio.2)

/-- The quotient of two numbers, the second of which is not zero. -/
def div? (left right : Binary64) : Option Binary64 :=
  ofRatio? (left.ratio.1 * right.ratio.2) (left.ratio.2 * right.ratio.1)

end Binary64

end TapeMachine
