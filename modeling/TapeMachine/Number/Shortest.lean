import TapeMachine.Number.Decimal

/-!
# The shortest decimal of a number

A binary64 number is written with the fewest digits that read back as the same
number.  Of several such decimals the nearest is taken, and of two equally near
ones the even one.  The numbers that read back are those within half a step of
the format on either side, the ends included if the significand is even.  On
every grid of decimals it is enough to look at the two neighbours of the number.
-/

namespace TapeMachine.Binary64

/-- The exponent of the greatest power of ten that is not above a positive ratio. -/
def decimalOrder (numerator denominator : Nat) : Int :=
  if denominator ≤ numerator then Decimal.digitCount (numerator / denominator) - 1
  else -(Decimal.digitCount ((denominator - 1) / numerator) : Int)

/-- Whether the significand is the least one of its exponent, above which steps double. -/
def isLowest (number : Binary64) : Bool :=
  number.significand == Nat.pow 2 52 && -1074 < number.exponent

/--
The multiple of `10 ^ exponent` nearest to a positive number, if one reads back
as the number.  Everything is measured in quarters of a step of the format.
-/
def readsBack? (number : Binary64) (exponent : Int) : Option Decimal :=
  let quarter := scaled 1 1 (number.exponent - 2)
  let unit :=
    if exponent < 0 then (1, Nat.pow 10 (-exponent).toNat) else (Nat.pow 10 exponent.toNat, 1)
  let measure (quarters : Nat) : Nat := quarters * quarter.1 * unit.2
  let grid := quarter.2 * unit.1
  let value := measure (4 * number.significand)
  let low := measure (4 * number.significand - if number.isLowest then 1 else 2)
  let high := measure (4 * number.significand + 2)
  let within (multiple : Nat) : Bool :=
    if number.significand % 2 = 0 then low ≤ multiple * grid && multiple * grid ≤ high
    else low < multiple * grid && multiple * grid < high
  let below := value / grid
  let above := below + 1
  match within below, within above with
  | false, false => none
  | true, false => some { coefficient := below, exponent }
  | false, true => some { coefficient := above, exponent }
  | true, true => some { coefficient := roundedQuotient value grid, exponent }

/-- Takes the final zeros of a coefficient into the exponent, at most `fuel` of them. -/
def withoutFinalZeros : Nat → Decimal → Decimal
  | 0, decimal => decimal
  | fuel + 1, decimal =>
    if decimal.coefficient ≠ 0 ∧ decimal.coefficient % 10 = 0 then
      withoutFinalZeros fuel
        { coefficient := decimal.coefficient / 10, exponent := decimal.exponent + 1 }
    else decimal

/-- The shortest decimal that reads back as the number, and the nearest of those. -/
def shortest (number : Binary64) : Decimal :=
  if number.isZero then { coefficient := 0, exponent := 0 }
  else
    let order := decimalOrder number.ratio.1 number.ratio.2
    match (List.range 17).findSome? fun (digits : Nat) => number.readsBack? (order - digits) with
    | some decimal => withoutFinalZeros 17 decimal
    | none => { coefficient := 0, exponent := 0 }

/-- A decimal point among digits, `whole` of them before it. -/
def pointed (digits : List Char) (whole : Nat) : List Char :=
  digits.take whole ++ '.' :: digits.drop whole

/--
The number in decimal digits.  From 10^-5 up to below 10^16 it is written with
a point and at least one digit on either side of it; outside this range one
digit stands before the point, if any follow, and a signed power of ten behind
an `e`.
-/
def digits (number : Binary64) : List Char :=
  let decimal := number.shortest
  let figures := Nat.toDigits 10 decimal.coefficient
  let whole := (figures.length : Int) + decimal.exponent
  if number.isZero then ['0', '.', '0']
  else if 0 < whole ∧ whole ≤ 16 then
    let zeros := List.replicate decimal.exponent.toNat '0'
    let padded := figures ++ zeros ++ if decimal.exponent < 0 then [] else ['0']
    pointed padded whole.toNat
  else if -5 < whole ∧ whole ≤ 0 then
    '0' :: '.' :: (List.replicate (-whole).toNat '0' ++ figures)
  else
    let fraction := if figures.length = 1 then figures else pointed figures 1
    let power := whole - 1
    let sign := if power < 0 then '-' else '+'
    fraction ++ 'e' :: sign :: Nat.toDigits 10 power.natAbs

end TapeMachine.Binary64
