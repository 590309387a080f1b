import RollupAudit.Number.DecimalArithmetic

/-!
# When a product overflows

A product is rounded in two ways at once, to 28 digits and to a least power of ten, and the first
digit is looked at before and after. All that decides whether it overflows is the first digit of the
exact product rounded to 28 digits.

**Results.**
* `Decimal.mul?_eq_none_iff`: a product overflows exactly if it is not zero and its first digit,
  after rounding to 28 digits, counts more than the greatest power.
-/

namespace RollupAudit
namespace Decimal

variable {d : Decimal}

/-- A number rounded to 28 digits, whatever its exponent. -/
def toPrecision (d : Decimal) : Decimal :=
  if d.digitCount ≤ precision then d
  else
    { d with
      coefficient := roundHalfEven d.coefficient (10 ^ (d.digitCount - precision))
      exponent := d.exponent + (d.digitCount - precision : Nat) }

/-- That a product is too large for the range of products. -/
def ProductOverflows (x y : Decimal) : Prop :=
  (x.exactMul y).coefficient ≠ 0 ∧ greatestPower < (x.exactMul y).toPrecision.adjusted

theorem digitCount_pos (d : Decimal) : 0 < d.digitCount :=
  List.length_pos_iff.mpr Nat.toDigits_ne_nil

theorem digitCount_le_iff
    {n : Nat}
    (hn : 0 < n) :
    d.digitCount ≤ n ↔ d.coefficient < 10 ^ n :=
  Nat.length_toDigits_le_iff (by decide) hn

theorem lt_digitCount_iff
    {n : Nat}
    (hn : 0 < n) :
    n < d.digitCount ↔ 10 ^ n ≤ d.coefficient := by
  have h := digitCount_le_iff (d := d) hn
  omega

theorem coefficient_lt_pow (d : Decimal) : d.coefficient < 10 ^ d.digitCount :=
  (digitCount_le_iff d.digitCount_pos).mp (Nat.le_refl _)

/-- Without some of its last digits, a number is rounded to what the others are or to the next. -/
theorem roundHalfEven_bounds
    {c digits shift : Nat}
    (hshift : shift ≤ digits)
    (hlt : c < 10 ^ digits) :
    c / 10 ^ shift ≤ roundHalfEven c (10 ^ shift) ∧
      roundHalfEven c (10 ^ shift) ≤ 10 ^ (digits - shift) := by
  have hsplit : 10 ^ digits = 10 ^ shift * 10 ^ (digits - shift) := by
    rw [← Nat.pow_add, Nat.add_sub_cancel' hshift]
  have hquotient : c / 10 ^ shift < 10 ^ (digits - shift) := by
    apply Nat.div_lt_of_lt_mul
    rwa [← hsplit]
  rcases roundHalfEven_eq_or c (10 ^ shift) with h | h <;> omega

theorem adjusted_zero (negative : Bool) (e : Int) : adjusted ⟨negative, 0, e⟩ = e := by
  simp [adjusted, digitCount]

/-- Rounding moves the first digit up by one place at most, unless it is rounded off. -/
theorem adjusted_roundTo_le
    {e : Int}
    (he : d.exponent ≤ e) :
    (d.roundTo e).adjusted ≤ max e (d.adjusted + 1) := by
  obtain ⟨shift, hshift⟩ := Int.le.dest he
  have hnat : e - d.exponent = shift := by omega
  simp only [roundTo, hnat, Int.ofNat_eq_natCast, Int.toNat_natCast]
  split
  · rw [adjusted_zero]
    omega
  · rename_i hle
    have hle : shift ≤ d.digitCount := by omega
    have hcoefficient := (roundHalfEven_bounds hle d.coefficient_lt_pow).2
    have hcount : digitCount ⟨d.negative, roundHalfEven d.coefficient (10 ^ shift), e⟩ ≤
        d.digitCount - shift + 1 := by
      refine (digitCount_le_iff (Nat.succ_pos _)).mpr ?_
      exact Nat.lt_of_le_of_lt hcoefficient (Nat.pow_lt_pow_succ (by decide))
    simp only [adjusted]
    omega

/-- Rounding to the place of the 28th digit is rounding to 28 digits. -/
theorem roundTo_eq_toPrecision
    (h : precision < d.digitCount) :
    d.roundTo (d.adjusted + 1 - precision) = d.toPrecision := by
  have hshift : d.adjusted + 1 - precision - d.exponent = (d.digitCount - precision : Nat) := by
    simp only [adjusted]
    omega
  have hexponent : d.adjusted + 1 - precision = d.exponent + (d.digitCount - precision : Nat) := by
    simp only [adjusted]
    omega
  have hkept : ¬ Int.ofNat d.digitCount < (d.digitCount - precision : Nat) := by
    simp only [Int.ofNat_eq_natCast]
    omega
  rw [toPrecision, if_neg (by omega), roundTo, hshift, if_neg hkept, Int.toNat_natCast, hexponent]

theorem pow_le_coefficient_toPrecision
    (h : precision < d.digitCount) :
    10 ^ (precision - 1) ≤ d.toPrecision.coefficient := by
  have hpow : 10 ^ (precision - 1) * 10 ^ (d.digitCount - precision) ≤ d.coefficient := by
    rw [← Nat.pow_add]
    exact (lt_digitCount_iff (by simp only [precision] at *; omega)).mp
      (by simp only [precision] at *; omega)
  rw [toPrecision, if_neg (by omega)]
  calc 10 ^ (precision - 1)
      ≤ d.coefficient / 10 ^ (d.digitCount - precision) :=
        (Nat.le_div_iff_mul_le (Nat.pow_pos (by decide))).mpr hpow
    _ ≤ roundHalfEven d.coefficient (10 ^ (d.digitCount - precision)) :=
        (roundHalfEven_bounds (Nat.sub_le _ _) d.coefficient_lt_pow).1

/-- Rounding to 28 digits keeps the place of the first digit or moves it up by one. -/
theorem adjusted_toPrecision_bounds
    (d : Decimal) :
    d.adjusted ≤ d.toPrecision.adjusted ∧ d.toPrecision.adjusted ≤ d.adjusted + 1 := by
  by_cases h : precision < d.digitCount
  · constructor
    · have hcount : precision ≤ d.toPrecision.digitCount := by
        have hlt := (lt_digitCount_iff (d := d.toPrecision) (n := precision - 1) (by decide)).mpr
          (pow_le_coefficient_toPrecision h)
        omega
      have hexponent : d.toPrecision.exponent = d.exponent + (d.digitCount - precision : Nat) := by
        rw [toPrecision, if_neg (by omega)]
      simp only [adjusted, hexponent]
      omega
    · rw [← roundTo_eq_toPrecision h]
      have hle : d.exponent ≤ d.adjusted + 1 - precision := by
        simp only [adjusted]
        omega
      have hmax := adjusted_roundTo_le hle
      simp only [precision] at hmax ⊢
      omega
  · rw [toPrecision, if_pos (by omega)]
    omega

/-- The last zero of a number counts nothing. -/
theorem adjusted_dropCarry (d : Decimal) : d.dropCarry.adjusted = d.adjusted := by
  unfold dropCarry
  split
  · rename_i h
    have hcount : (Nat.toDigits 10 d.coefficient).length =
        (Nat.toDigits 10 (d.coefficient / 10)).length + 1 := by
      have hten : 10 ≤ d.coefficient := by
        have hlt := (lt_digitCount_iff (d := d) (n := 1) (by decide)).mp
          (by simp only [precision] at h; omega)
        omega
      rw [Nat.toDigits_of_base_le (by decide) hten, List.length_append, List.length_singleton]
    simp only [adjusted, digitCount, hcount]
    omega
  · rfl

theorem coefficient_dropCarry_ne_zero
    (h : d.coefficient ≠ 0) :
    d.dropCarry.coefficient ≠ 0 := by
  unfold dropCarry
  split
  · rename_i hlong
    have hten := (lt_digitCount_iff (d := d) (n := 1) (by decide)).mp
      (by simp only [precision] at hlong; omega)
    show d.coefficient / 10 ≠ 0
    omega
  · exact h

/-- Rounding in both ways at once overflows just as rounding to 28 digits does. -/
theorem finish?_eq_none_iff
    (hd : d.coefficient ≠ 0) :
    d.finish? = none ↔ greatestPower < d.toPrecision.adjusted := by
  have hbounds := adjusted_toPrecision_bounds d
  have hadjusted : d.adjusted = d.exponent + d.digitCount - 1 := rfl
  simp only [finish?, if_neg hd]
  by_cases hlarge : greatestPower < d.adjusted
  · simp only [if_pos hlarge, true_iff]
    omega
  rw [if_neg hlarge]
  by_cases hexact : d.targetExponent ≤ d.exponent
  · -- There are no more than 28 digits, and no place is too low.
    have hshort : d.digitCount ≤ precision := by
      simp only [targetExponent] at hexact
      omega
    simp only [if_pos hexact, reduceCtorEq, false_iff]
    rwa [toPrecision, if_pos hshort]
  rw [if_neg hexact]
  have hnone : ∀ r : Decimal,
      (if r.coefficient ≠ 0 ∧ greatestPower < r.adjusted then none else some r) = none ↔
        r.coefficient ≠ 0 ∧ greatestPower < r.adjusted := by
    intro r
    split <;> simp_all
  rw [hnone, adjusted_dropCarry]
  by_cases hplace : leastPower ≤ d.adjusted + 1 - precision
  · have htarget : d.targetExponent = d.adjusted + 1 - precision := by
      simp only [targetExponent]
      omega
    have hlong : precision < d.digitCount := by omega
    have hpositive : 0 < d.toPrecision.coefficient :=
      Nat.lt_of_lt_of_le (Nat.pow_pos (by decide)) (pow_le_coefficient_toPrecision hlong)
    rw [htarget, roundTo_eq_toPrecision hlong]
    exact ⟨fun h => h.2, fun h => ⟨coefficient_dropCarry_ne_zero (by omega), h⟩⟩
  · -- The first digit is far below the greatest power, however the number is rounded.
    have htarget : d.targetExponent = leastPower := by
      simp only [targetExponent]
      omega
    have hrounded := adjusted_roundTo_le (d := d) (e := leastPower) (by omega)
    rw [htarget]
    simp only [leastPower, greatestPower, precision] at *
    omega

/-- A product overflows exactly if it is not zero and its first digit, after rounding to 28 digits,
counts more than the greatest power. -/
theorem mul?_eq_none_iff
    {x y : Decimal} :
    x.mul? y = none ↔ ProductOverflows x y := by
  by_cases hzero : (x.exactMul y).coefficient = 0
  · simp [mul?, ProductOverflows, finish?, hzero]
  · rw [mul?, finish?_eq_none_iff hzero, ProductOverflows]
    exact ⟨fun h => ⟨hzero, h⟩, fun h => h.2⟩

end Decimal
end RollupAudit
