import Mathlib.Algebra.Order.Field.Power
import Mathlib.Algebra.Order.Ring.Rat
import Mathlib.Data.Int.Log
import Mathlib.Data.Rat.Floor
import Mathlib.Tactic.Linarith
import Mathlib.Tactic.Positivity
import Mathlib.Tactic.Ring
import RollupAudit.Proofs.Facts.Normal
import RollupAudit.Proofs.Number.DecimalProduct

/-!
# The values of decimal numbers

Two decimal numbers are compared by their signs, then by the powers of their first digits, and only
then digit by digit. Each step agrees with the order of the rational numbers that they stand for.

**Results.**
* `Decimal.log_abs_value`: the power of the first digit is the logarithm of the magnitude.
* `Decimal.compare_eq_lt_iff`: the comparison is that of the values.
* `Decimal.value_exactMul`: the exact product has the product of the values.
-/

namespace RollupAudit
namespace Decimal

variable {d x y : Decimal}

/-- The rational number that a decimal number stands for. -/
def value (d : Decimal) : ℚ := d.signed * (10 : ℚ) ^ d.exponent

theorem natAbs_signed (d : Decimal) : d.signed.natAbs = d.coefficient := by
  unfold signed
  split <;> simp

theorem abs_value (d : Decimal) : |d.value| = d.coefficient * (10 : ℚ) ^ d.exponent := by
  rw [value, abs_mul, abs_of_pos (a := (10 : ℚ) ^ d.exponent) (by positivity), ← Int.cast_abs,
    Int.abs_eq_natAbs, natAbs_signed, Int.cast_natCast]

theorem value_of_negative
    (h : d.negative = true) :
    d.value = -|d.value| := by
  rw [abs_value, value, signed, if_pos h, Int.ofNat_eq_natCast, Int.cast_neg, Int.cast_natCast,
    neg_mul]

theorem value_of_not_negative
    (h : d.negative = false) :
    d.value = |d.value| := by
  rw [abs_value, value, signed, if_neg (by simp [h]), Int.ofNat_eq_natCast, Int.cast_natCast]

theorem value_eq_zero_iff : d.value = 0 ↔ d.coefficient = 0 := by
  rw [← abs_eq_zero, abs_value, mul_eq_zero, Nat.cast_eq_zero]
  exact or_iff_left (by positivity)

theorem abs_value_pos
    (h : d.coefficient ≠ 0) :
    0 < |d.value| :=
  abs_pos.mpr fun hzero => h (value_eq_zero_iff.mp hzero)

/-- An amount is not negative, whatever the sign of its zero. -/
theorem IsAmount.value_nonneg
    (h : d.IsAmount) :
    0 ≤ d.value := by
  by_cases hzero : d.coefficient = 0
  · rw [value_eq_zero_iff.mpr hzero]
  · have hsign : d.negative = false := by simpa [IsAmount, isZero, hzero] using h
    rw [value_of_not_negative hsign]
    exact abs_nonneg _

/-! ## Magnitudes -/

theorem zpow_le_abs_value
    (h : d.coefficient ≠ 0) :
    (10 : ℚ) ^ d.adjusted ≤ |d.value| := by
  have hdigits : 10 ^ (d.digitCount - 1) ≤ d.coefficient := by
    by_cases hone : d.digitCount = 1
    · rw [hone]
      exact Nat.pos_of_ne_zero h
    · have hcount := d.digitCount_pos
      exact (lt_digitCount_iff (by omega)).mp (by omega)
  have hsplit : (10 : ℚ) ^ d.adjusted = (10 ^ (d.digitCount - 1) : ℕ) * (10 : ℚ) ^ d.exponent := by
    have hcount := d.digitCount_pos
    rw [Nat.cast_pow, ← zpow_natCast, Nat.cast_ofNat, ← zpow_add₀ (by norm_num)]
    congr 1
    simp only [adjusted]
    omega
  rw [abs_value, hsplit]
  exact mul_le_mul_of_nonneg_right (by exact_mod_cast hdigits) (by positivity)

theorem abs_value_lt_zpow (d : Decimal) : |d.value| < (10 : ℚ) ^ (d.adjusted + 1) := by
  have hsplit : (10 : ℚ) ^ (d.adjusted + 1) = (10 ^ d.digitCount : ℕ) * (10 : ℚ) ^ d.exponent := by
    rw [Nat.cast_pow, ← zpow_natCast, Nat.cast_ofNat, ← zpow_add₀ (by norm_num)]
    congr 1
    simp only [adjusted]
    omega
  rw [abs_value, hsplit]
  exact mul_lt_mul_of_pos_right (by exact_mod_cast d.coefficient_lt_pow) (by positivity)

/-- The power of the first digit is the logarithm of the magnitude. -/
theorem log_abs_value
    (h : d.coefficient ≠ 0) :
    Int.log 10 |d.value| = d.adjusted := by
  have hpos := abs_value_pos h
  refine le_antisymm ?_ ?_
  · have hlt := (Int.lt_zpow_iff_log_lt (b := 10) (by decide) hpos).mp
      (by exact_mod_cast d.abs_value_lt_zpow)
    omega
  · exact (Int.zpow_le_iff_le_log (b := 10) (by decide) hpos).mp
      (by exact_mod_cast zpow_le_abs_value h)

theorem abs_alignedTo
    {e : Int}
    (he : e ≤ d.exponent) :
    ((d.alignedTo e).natAbs : ℚ) * (10 : ℚ) ^ e = |d.value| := by
  have hsplit : (10 : ℚ) ^ d.exponent = (10 : ℚ) ^ (d.exponent - e).toNat * (10 : ℚ) ^ e := by
    rw [← zpow_natCast, ← zpow_add₀ (by norm_num)]
    congr 1
    omega
  rw [abs_value, alignedTo, Int.natAbs_mul, natAbs_signed, Int.natAbs_pow, hsplit]
  push_cast
  ring

theorem abs_value_lt_of_adjusted_lt
    (hy : y.coefficient ≠ 0)
    (h : x.adjusted < y.adjusted) :
    |x.value| < |y.value| :=
  calc |x.value|
      < (10 : ℚ) ^ (x.adjusted + 1) := x.abs_value_lt_zpow
    _ ≤ (10 : ℚ) ^ y.adjusted := zpow_le_zpow_right₀ (by norm_num) (by omega)
    _ ≤ |y.value| := zpow_le_abs_value hy

/-- Magnitudes are compared by the powers of their first digits and then with aligned digits. -/
theorem compareMagnitude_eq_lt_iff :
    x.compareMagnitude y = .lt ↔ |x.value| < |y.value| := by
  unfold compareMagnitude
  split
  · rename_i hzero
    rw [Nat.compare_eq_lt]
    rcases hzero with hx | hy
    · rw [value_eq_zero_iff.mpr hx, abs_zero, abs_pos, ne_eq, value_eq_zero_iff]
      omega
    · rw [value_eq_zero_iff.mpr hy, abs_zero]
      simp [hy]
  · rename_i hzero
    obtain ⟨hx, hy⟩ := not_or.mp hzero
    rcases lt_trichotomy x.adjusted y.adjusted with hlt | heq | hgt
    · rw [Int.compare_eq_lt.mpr hlt]
      simpa using abs_value_lt_of_adjusted_lt hy hlt
    · have hpower : (0 : ℚ) < (10 : ℚ) ^ min x.exponent y.exponent := by positivity
      rw [Int.compare_eq_eq.mpr heq]
      dsimp only
      rw [Nat.compare_eq_lt, ← abs_alignedTo (Int.min_le_left x.exponent y.exponent),
        ← abs_alignedTo (Int.min_le_right x.exponent y.exponent), mul_lt_mul_iff_left₀ hpower,
        Nat.cast_lt]
    · rw [Int.compare_eq_gt.mpr hgt]
      simpa using (abs_value_lt_of_adjusted_lt hx hgt).le

/-- The comparison of decimal numbers is that of their values. -/
theorem compare_eq_lt_iff : x.compare y = .lt ↔ x.value < y.value := by
  unfold compare
  by_cases hx : x.coefficient = 0
  · rw [value_eq_zero_iff.mpr hx]
    by_cases hy : y.coefficient = 0
    · simp [isZero, hx, hy, value_eq_zero_iff.mpr hy]
    · have hpos := abs_value_pos hy
      cases hsign : y.negative with
      | true =>
        rw [value_of_negative hsign]
        simp [isZero, hx, hy]
      | false =>
        rw [value_of_not_negative hsign]
        simpa [isZero, hx, hy] using hpos
  · have hxpos := abs_value_pos hx
    by_cases hy : y.coefficient = 0
    · rw [value_eq_zero_iff.mpr hy]
      cases hsign : x.negative with
      | true =>
        rw [value_of_negative hsign]
        simpa [isZero, hx, hy] using hxpos
      | false =>
        rw [value_of_not_negative hsign]
        simp [isZero, hx, hy]
    · have hypos := abs_value_pos hy
      simp only [isZero, beq_eq_false_iff_ne.mpr hx, beq_eq_false_iff_ne.mpr hy, Bool.and_false,
        Bool.false_eq_true, if_false]
      cases hsx : x.negative <;> cases hsy : y.negative
      · rw [value_of_not_negative hsx, value_of_not_negative hsy]
        exact compareMagnitude_eq_lt_iff
      · rw [value_of_not_negative hsx, value_of_negative hsy]
        simp only [reduceCtorEq, false_iff, not_lt]
        linarith
      · rw [value_of_negative hsx, value_of_not_negative hsy]
        simp only [true_iff]
        linarith
      · rw [value_of_negative hsx, value_of_negative hsy, neg_lt_neg_iff]
        exact compareMagnitude_eq_lt_iff

/-! ## Products -/

theorem signed_exactMul (x y : Decimal) : (x.exactMul y).signed = x.signed * y.signed := by
  unfold signed exactMul
  cases x.negative <;> cases y.negative <;> simp

/-- The exact product has the product of the values. -/
theorem value_exactMul (x y : Decimal) : (x.exactMul y).value = x.value * y.value := by
  have hpower : (10 : ℚ) ^ (x.exactMul y).exponent =
      (10 : ℚ) ^ x.exponent * (10 : ℚ) ^ y.exponent :=
    zpow_add₀ (by norm_num) _ _
  rw [value, signed_exactMul, hpower, value, value]
  push_cast
  ring

end Decimal
end RollupAudit
