import Mathlib.Algebra.Order.Field.Power
import Mathlib.Algebra.Order.Field.Rat
import Mathlib.Tactic.FieldSimp
import Mathlib.Tactic.Linarith
import Mathlib.Tactic.NormNum
import Mathlib.Tactic.Positivity
import Mathlib.Tactic.Ring
import TapeMachine.Number.Binary64

/-!
# Rounding to binary64

Rounding works on numerators and denominators.  Seen as rational numbers these
make it short to say what it does: a positive ratio is multiplied by a power of
two until it has 53 binary digits, or as many as the least exponent leaves, and
is then rounded to a natural number.

Of rounding to a natural number only one thing is needed: an even number is
reached from half a unit below it on, since a tie goes to the even number.
Powers of two are even in the units in which they are reached.
-/

namespace TapeMachine.Binary64

/-- The number as a rational. -/
def value (number : Binary64) : ℚ :=
  number.significand * 2 ^ number.exponent

theorem value_of_isZero
    {number : Binary64} (isZero : number.isZero = true) :
    number.value = 0 := by
  rw [value, beq_iff_eq.mp isZero, Nat.cast_zero, zero_mul]

/-! ## Ratios times powers of two -/

section Scaling

variable {numerator denominator : Nat}

theorem scaled_pos
    (positive : 0 < denominator) (power : Int) :
    0 < (scaled numerator denominator power).2 := by
  unfold scaled
  split
  · exact Nat.mul_pos positive (Nat.pow_pos (by omega))
  · exact positive

theorem scaled_div
    (positive : 0 < denominator) (power : Int) :
    ((scaled numerator denominator power).1 : ℚ) /
        (scaled numerator denominator power).2 =
      numerator / denominator * 2 ^ power := by
  have nonzero : (denominator : ℚ) ≠ 0 := by
    exact_mod_cast positive.ne'
  unfold scaled
  split
  · next negative =>
      rcases Int.eq_ofNat_of_zero_le (a := -power) (by omega) with
        ⟨count, isCount⟩
      obtain rfl : power = -(count : Int) := by omega
      simp only [neg_neg, Int.toNat_natCast, zpow_neg, zpow_natCast,
        Nat.pow_eq]
      push_cast
      field_simp
  · next nonnegative =>
      rcases Int.eq_ofNat_of_zero_le (a := power) (by omega) with ⟨count, rfl⟩
      simp only [Int.toNat_natCast, zpow_natCast, Nat.pow_eq]
      push_cast
      field_simp

theorem ratio_div (number : Binary64) :
    (number.ratio.1 : ℚ) / number.ratio.2 = number.value := by
  rw [ratio, scaled_div Nat.one_pos, Nat.cast_one, div_one, value]

/-! ## The order of a ratio -/

theorem log2_bounds
    {number : Nat} (positive : 0 < number) :
    (2 : ℚ) ^ (number.log2 : Int) ≤ number ∧
      (number : ℚ) < 2 ^ ((number.log2 : Int) + 1) := by
  constructor
  · rw [zpow_natCast]
    exact_mod_cast Nat.log2_self_le positive.ne'
  · exact_mod_cast Nat.lt_log2_self

theorem scaled_lt_iff
    (positive : 0 < denominator) (power : Int) :
    (scaled numerator denominator (-power)).1 <
        (scaled numerator denominator (-power)).2 ↔
      (numerator / denominator : ℚ) < 2 ^ power := by
  have positive' : (0 : ℚ) < (scaled numerator denominator (-power)).2 := by
    exact_mod_cast scaled_pos positive (-power)
  rw [← Nat.cast_lt (α := ℚ), ← div_lt_one positive', scaled_div positive,
    zpow_neg, ← div_eq_mul_inv, div_lt_one (by positivity)]

/-- The order is the exponent of the greatest power of two that is not above the ratio. -/
theorem binaryOrder_bounds
    (positive : 0 < numerator) (positive' : 0 < denominator) :
    (2 : ℚ) ^ binaryOrder numerator denominator ≤ numerator / denominator ∧
      (numerator / denominator : ℚ) <
        2 ^ (binaryOrder numerator denominator + 1) := by
  have ofNumerator := log2_bounds positive
  have ofDenominator := log2_bounds positive'
  have denominatorPos : (0 : ℚ) < denominator := by
    exact_mod_cast positive'
  generalize estimated :
    (numerator.log2 : Int) - denominator.log2 = estimate
  have aboveEstimate :
      (2 : ℚ) ^ (estimate - 1) ≤ numerator / denominator := by
    rw [le_div_iff₀ denominatorPos]
    calc (2 : ℚ) ^ (estimate - 1) * denominator
        ≤ 2 ^ (estimate - 1) * 2 ^ ((denominator.log2 : Int) + 1) := by
          gcongr
          exact ofDenominator.2.le
      _ = 2 ^ (numerator.log2 : Int) := by
          rw [← zpow_add₀ two_ne_zero]
          congr 1
          omega
      _ ≤ numerator := ofNumerator.1
  have belowEstimate :
      (numerator / denominator : ℚ) < 2 ^ (estimate + 1) := by
    rw [div_lt_iff₀ denominatorPos]
    calc (numerator : ℚ)
        < 2 ^ ((numerator.log2 : Int) + 1) := ofNumerator.2
      _ = 2 ^ (estimate + 1) * 2 ^ (denominator.log2 : Int) := by
          rw [← zpow_add₀ two_ne_zero]
          congr 1
          omega
      _ ≤ 2 ^ (estimate + 1) * denominator := by
          gcongr
          exact ofDenominator.1
  simp only [binaryOrder, estimated, scaled_lt_iff positive']
  split
  · next below =>
      rw [Int.sub_add_cancel]
      exact ⟨aboveEstimate, below⟩
  · next notBelow => exact ⟨not_lt.mp notBelow, belowEstimate⟩

end Scaling

/-! ## Rounding to natural numbers -/

section Rounding

variable {even numerator denominator : Nat}

theorem even_le_roundedQuotient_iff
    (isEven : even % 2 = 0) (positive : 0 < denominator) :
    even ≤ roundedQuotient numerator denominator ↔
      2 * (even * denominator) ≤ 2 * numerator + denominator := by
  have divided := Nat.div_add_mod numerator denominator
  have remainderLt := Nat.mod_lt numerator positive
  rw [Nat.mul_comm] at divided
  simp only [roundedQuotient]
  generalize numerator / denominator = quotient at divided ⊢
  generalize numerator % denominator = remainder at divided remainderLt ⊢
  rcases Nat.lt_trichotomy even (quotient + 1) with below | rfl | above
  · have isBelow : even * denominator ≤ quotient * denominator :=
      Nat.mul_le_mul_right denominator (by omega)
    split_ifs <;> omega
  · -- The remainder decides, and in a tie that the quotient is odd.
    rw [Nat.add_mul, Nat.one_mul]
    split_ifs <;> omega
  · have isAbove : (quotient + 2) * denominator ≤ even * denominator :=
      Nat.mul_le_mul_right denominator (by omega)
    rw [Nat.add_mul] at isAbove
    split_ifs <;> omega

/-- An even number is reached from half a unit below it on. -/
theorem even_le_roundedQuotient_iff_rat
    (isEven : even % 2 = 0) (positive : 0 < denominator) :
    even ≤ roundedQuotient numerator denominator ↔
      (even : ℚ) - 1 / 2 ≤ numerator / denominator := by
  have positive' : (0 : ℚ) < denominator := by
    exact_mod_cast positive
  rw [even_le_roundedQuotient_iff isEven positive, le_div_iff₀ positive',
    ← Nat.cast_le (α := ℚ)]
  push_cast
  constructor <;> intro bound <;> linarith

end Rounding

/-! ## Rounding to the format -/

/-- What is at most half of a power of two leaves at least half of it. -/
theorem two_zpow_pred_le_sub
    {power exponent : Int} (below : exponent ≤ power - 1) :
    (2 : ℚ) ^ (power - 1) ≤ 2 ^ power - 2 ^ exponent := by
  have isHalf : (2 : ℚ) ^ power = 2 * 2 ^ (power - 1) := by
    rw [zpow_sub_one₀ two_ne_zero]
    ring
  have : (2 : ℚ) ^ exponent ≤ 2 ^ (power - 1) :=
    zpow_le_zpow_right₀ one_le_two below
  linarith

/-- The exponent of the unit that a ratio is rounded to. -/
def unitExponent (numerator denominator : Nat) : Int :=
  max (binaryOrder numerator denominator - 52) (-1074)

section Nearest

variable
    {numerator denominator : Nat}
    {number : Binary64}

theorem value_of_ofRatio?_zero
    (rounded : ofRatio? 0 denominator = some number) :
    number.value = 0 := by
  simp only [ofRatio?, if_true, Option.some.injEq] at rounded
  rw [← rounded, value, Nat.cast_zero, zero_mul]

/-- A significand of 53 digits that was rounded up is the same number in the next greater unit. -/
theorem value_of_ofRatio?
    (positive : 0 < numerator)
    (rounded : ofRatio? numerator denominator = some number) :
    number.value =
      roundedQuotient
          (scaled numerator denominator (-unitExponent numerator denominator)).1
          (scaled numerator denominator (-unitExponent numerator denominator)).2 *
        2 ^ unitExponent numerator denominator := by
  simp only [ofRatio?, positive.ne', if_false] at rounded
  rw [unitExponent]
  generalize max (binaryOrder numerator denominator - 52) (-1074) = unit
    at rounded ⊢
  generalize roundedQuotient (scaled numerator denominator (-unit)).1
    (scaled numerator denominator (-unit)).2 = units at rounded ⊢
  by_cases carried : units = Nat.pow 2 53
  · simp only [carried, if_true] at rounded
    split at rounded
    · cases rounded
    · cases rounded
      rw [value, carried, zpow_add_one₀ two_ne_zero]
      norm_num
      ring
  · simp only [carried, if_false] at rounded
    split at rounded
    · cases rounded
    · cases rounded
      rfl

theorem even_units_le_value_iff
    (positive : 0 < numerator) (positive' : 0 < denominator)
    (rounded : ofRatio? numerator denominator = some number)
    (even : Nat) (isEven : even % 2 = 0) :
    (even : ℚ) * 2 ^ unitExponent numerator denominator ≤ number.value ↔
      (even - 1 / 2 : ℚ) * 2 ^ unitExponent numerator denominator ≤
        numerator / denominator := by
  rw [value_of_ofRatio? positive rounded]
  generalize unitExponent numerator denominator = unit
  have unitPos : (0 : ℚ) < 2 ^ unit := by positivity
  rw [mul_le_mul_iff_left₀ unitPos, Nat.cast_le,
    even_le_roundedQuotient_iff_rat isEven (scaled_pos positive' _),
    scaled_div positive', zpow_neg, ← div_eq_mul_inv, le_div_iff₀ unitPos]

/-- A power of two above the unit is reached from half a unit below it on. -/
theorem two_zpow_le_value_iff_of_unit
    (positive : 0 < numerator) (positive' : 0 < denominator)
    (rounded : ofRatio? numerator denominator = some number)
    {power : Int} (above : unitExponent numerator denominator < power) :
    (2 : ℚ) ^ power ≤ number.value ↔
      (2 : ℚ) ^ power - 2 ^ (unitExponent numerator denominator - 1) ≤
        numerator / denominator := by
  have counted := even_units_le_value_iff positive positive' rounded
  generalize unitExponent numerator denominator = unit at above counted ⊢
  rcases Int.eq_ofNat_of_zero_le (a := power - unit - 1) (by omega) with
    ⟨count, isCount⟩
  have isPower : (2 : ℚ) ^ power = (2 ^ (count + 1) : Nat) * 2 ^ unit := by
    rw [Nat.cast_pow, Nat.cast_ofNat, ← zpow_natCast,
      ← zpow_add₀ two_ne_zero]
    congr 1
    push_cast
    omega
  have isHalf : (2 : ℚ) ^ (unit - 1) = 1 / 2 * 2 ^ unit := by
    rw [zpow_sub_one₀ two_ne_zero]
    ring
  rw [isPower, isHalf, ← sub_mul]
  exact counted _ (by rw [Nat.pow_succ]; omega)

/--
A power of two that is no subnormal number is reached from one part in 2^54
below it on.
-/
theorem two_zpow_le_value_iff
    (positive : 0 < denominator)
    (rounded : ofRatio? numerator denominator = some number)
    {power : Int} (normal : -1021 ≤ power) :
    (2 : ℚ) ^ power ≤ number.value ↔
      (2 : ℚ) ^ power - 2 ^ (power - 54) ≤ numerator / denominator := by
  rcases Nat.eq_zero_or_pos numerator with rfl | positive'
  · rw [value_of_ofRatio?_zero rounded, Nat.cast_zero, zero_div]
    have powerPos : (0 : ℚ) < 2 ^ power := by positivity
    have halfPos : (0 : ℚ) < 2 ^ (power - 1) := by positivity
    have isAbove : (2 : ℚ) ^ (power - 1) ≤ 2 ^ power - 2 ^ (power - 54) :=
      two_zpow_pred_le_sub (by omega)
    constructor <;> intro bound <;> linarith
  · rcases binaryOrder_bounds positive' positive with ⟨orderLe, ltNext⟩
    have atUnit (above : unitExponent numerator denominator < power) :=
      two_zpow_le_value_iff_of_unit positive' positive rounded above
    have unitOfOrder :
        unitExponent numerator denominator =
          max (binaryOrder numerator denominator - 52) (-1074) :=
      rfl
    generalize binaryOrder numerator denominator = order
      at orderLe ltNext unitOfOrder
    rcases Int.lt_trichotomy order (power - 1) with below | here | above
    · have ratioLt : (numerator / denominator : ℚ) < 2 ^ (power - 1) :=
        ltNext.trans_le (zpow_le_zpow_right₀ one_le_two (by omega))
      have isAbove : (2 : ℚ) ^ (power - 1) ≤ 2 ^ power - 2 ^ (power - 54) :=
        two_zpow_pred_le_sub (by omega)
      have isAboveUnit :
          (2 : ℚ) ^ (power - 1) ≤
            2 ^ power - 2 ^ (unitExponent numerator denominator - 1) :=
        two_zpow_pred_le_sub (by omega)
      rw [atUnit (by omega)]
      constructor <;> intro bound <;> linarith
    · have unitIs : unitExponent numerator denominator - 1 = power - 54 := by
        omega
      rw [atUnit (by omega), unitIs]
    · have powerLe : (2 : ℚ) ^ power ≤ 2 ^ order :=
        zpow_le_zpow_right₀ one_le_two (by omega)
      have reached : (2 : ℚ) ^ order ≤ number.value := by
        rw [two_zpow_le_value_iff_of_unit positive' positive rounded (by omega)]
        have unitPos :
            (0 : ℚ) < 2 ^ (unitExponent numerator denominator - 1) := by
          positivity
        linarith
      have partPos : (0 : ℚ) < 2 ^ (power - 54) := by positivity
      constructor <;> intro <;> linarith

end Nearest

end TapeMachine.Binary64
