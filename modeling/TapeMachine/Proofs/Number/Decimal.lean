import TapeMachine.Number.Decimal
import TapeMachine.Proofs.Number.Rounding

/-!
# Decimals and powers of two

A decimal is rounded as the ratio it stands for, apart from those whose size
alone settles the matter: they are known by the number of their digits.  Setting
these apart changes nothing, so a decimal is rounded up to a power of two from
the same place on as any other ratio.
-/

namespace TapeMachine.Decimal

/-- The decimal as a rational. -/
def value (decimal : Decimal) : ℚ :=
  decimal.coefficient * 10 ^ decimal.exponent

theorem ratio_pos (decimal : Decimal) : 0 < decimal.ratio.2 := by
  unfold ratio
  split
  · exact Nat.pow_pos (by omega)
  · exact Nat.one_pos

theorem ratio_div (decimal : Decimal) :
    (decimal.ratio.1 : ℚ) / decimal.ratio.2 = decimal.value := by
  unfold ratio value
  split
  · next negative =>
      rcases Int.eq_ofNat_of_zero_le (a := -decimal.exponent) (by omega) with
        ⟨count, isCount⟩
      have isExponent : decimal.exponent = -(count : Int) := by omega
      simp only [isExponent, neg_neg, Int.toNat_natCast, zpow_neg,
        zpow_natCast, Nat.pow_eq]
      push_cast
      rw [div_eq_mul_inv]
  · next nonnegative =>
      rcases Int.eq_ofNat_of_zero_le (a := decimal.exponent) (by omega) with
        ⟨count, isCount⟩
      simp only [isCount, Int.toNat_natCast, zpow_natCast, Nat.pow_eq]
      push_cast
      rw [div_one]

/-! ## Digits -/

theorem lt_pow_digitCount (number : Nat) : number < 10 ^ digitCount number := by
  unfold digitCount
  split
  · next isZero => simp [isZero]
  · exact
      (Nat.length_toDigits_le_iff (by omega) Nat.length_toDigits_pos).mp le_rfl

theorem value_lt (decimal : Decimal) :
    decimal.value <
      10 ^ ((digitCount decimal.coefficient : Int) + decimal.exponent) := by
  have below : (decimal.coefficient : ℚ) < 10 ^ digitCount decimal.coefficient := by
    exact_mod_cast lt_pow_digitCount decimal.coefficient
  rw [value, zpow_add₀ (by norm_num), zpow_natCast]
  gcongr

/-- What is set apart for being small is smaller than every number that is not subnormal. -/
theorem value_lt_of_small
    {decimal : Decimal}
    (small :
      decimal.coefficient = 0 ∨
        (digitCount decimal.coefficient : Int) + decimal.exponent < -330) :
    decimal.value < 2 ^ (-1022 : Int) := by
  have tenBelowTwo : (10 : ℚ) ^ (-330 : Int) < 2 ^ (-1022 : Int) := by
    have powers : (2 : Nat) ^ 1022 < 10 ^ 330 := by decide +kernel
    simp only [zpow_neg, zpow_ofNat]
    exact inv_strictAnti₀ (by positivity) (by exact_mod_cast powers)
  rcases small with isZero | fewDigits
  · rw [value, isZero, Nat.cast_zero, zero_mul]
    positivity
  · calc decimal.value
        < 10 ^ ((digitCount decimal.coefficient : Int) + decimal.exponent) :=
          decimal.value_lt
      _ ≤ 10 ^ (-330 : Int) := zpow_le_zpow_right₀ (by norm_num) fewDigits.le
      _ < 2 ^ (-1022 : Int) := tenBelowTwo

/-- A decimal is rounded up to a power of two from one part in 2^54 below it on. -/
theorem two_zpow_le_value_iff
    {decimal : Decimal} {number : Binary64}
    (rounded : decimal.toBinary64? = some number)
    {power : Int} (normal : -1021 ≤ power) :
    (2 : ℚ) ^ power ≤ number.value ↔
      (2 : ℚ) ^ power - 2 ^ (power - 54) ≤ decimal.value := by
  simp only [toBinary64?] at rounded
  split at rounded
  · next small =>
      have isAbove : (2 : ℚ) ^ (power - 1) ≤ 2 ^ power - 2 ^ (power - 54) :=
        Binary64.two_zpow_pred_le_sub (by omega)
      have leastLe : (2 : ℚ) ^ (-1022 : Int) ≤ 2 ^ (power - 1) :=
        zpow_le_zpow_right₀ one_le_two (by omega)
      have valueLt := value_lt_of_small small
      have powerPos : (0 : ℚ) < 2 ^ power := by positivity
      rw [Binary64.value_of_ofRatio?_zero rounded]
      constructor <;> intro bound <;> linarith
  · split at rounded
    · cases rounded
    · rw [← decimal.ratio_div]
      exact Binary64.two_zpow_le_value_iff decimal.ratio_pos rounded normal

end TapeMachine.Decimal
