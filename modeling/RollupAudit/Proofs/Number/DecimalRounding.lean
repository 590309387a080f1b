import Mathlib.Algebra.Order.Floor.Ring
import RollupAudit.Proofs.Number.DecimalValue

/-!
# Rounded products

The product of two amounts is a rounded one. In terms of values: it is the exact product brought to
the nearest multiple of a power of ten, a tie going to the even multiple. The power is that of the
28th digit, but never below the least one. Rounding keeps the order of products, although larger
products are rounded more coarsely.

**Results.**
* `Decimal.mul?_spec`: the product of amounts is their exact product, rounded.
* `Decimal.mul?_eq_none_iff_rounded`: it overflows exactly if the rounded product is beyond the range.
* `Decimal.rounded_mono`: a smaller product is not rounded to a larger one.
* `Decimal.rounded_eq_self`: a product of few enough digits is not rounded.
* `Decimal.abs_rounded_sub_le`: rounding changes a product by half a unit of its last place at most.
-/

namespace RollupAudit

/-! ## Rounding to integers -/

/-- The integer nearest to a rational number; of two equally near ones, the even one. -/
def halfEven (q : ℚ) : ℤ :=
  if 2 * Int.fract q < 1 then ⌊q⌋
  else if 1 < 2 * Int.fract q then ⌊q⌋ + 1
  else ⌊q⌋ + ⌊q⌋ % 2

theorem floor_le_halfEven (q : ℚ) : ⌊q⌋ ≤ halfEven q := by
  unfold halfEven
  split_ifs <;> omega

theorem halfEven_le_floor_add_one (q : ℚ) : halfEven q ≤ ⌊q⌋ + 1 := by
  unfold halfEven
  split_ifs <;> omega

@[simp] theorem halfEven_intCast (n : ℤ) : halfEven (n : ℚ) = n := by
  simp [halfEven]

/-- Between two neighbouring integers, the fraction decides; a tie goes the same way for all. -/
theorem halfEven_mono
    {p q : ℚ}
    (h : p ≤ q) :
    halfEven p ≤ halfEven q := by
  rcases (Int.floor_le_floor h).eq_or_lt with hfloor | hfloor
  · have hfract : Int.fract p ≤ Int.fract q := by
      simp only [Int.fract, hfloor]
      linarith
    unfold halfEven
    rw [hfloor]
    split_ifs <;> first | omega | linarith
  · calc halfEven p ≤ ⌊p⌋ + 1 := halfEven_le_floor_add_one p
      _ ≤ ⌊q⌋ := hfloor
      _ ≤ halfEven q := floor_le_halfEven q

theorem abs_halfEven_sub_le (q : ℚ) : |(halfEven q : ℚ) - q| ≤ 1 / 2 := by
  have hsplit : q = ⌊q⌋ + Int.fract q := (Int.floor_add_fract q).symm
  have hnonneg := Int.fract_nonneg q
  have hlt := Int.fract_lt_one q
  rw [abs_le]
  unfold halfEven
  split_ifs with hlow hhigh
  · constructor <;> linarith
  · push_cast
    constructor <;> linarith
  · -- At a tie both neighbours are half a unit away.
    rcases Int.emod_two_eq_zero_or_one ⌊q⌋ with hparity | hparity <;> rw [hparity] <;> push_cast <;>
      constructor <;> linarith

/-- On quotients of natural numbers it is the rounding of digits. -/
theorem halfEven_natCast_div
    (n : Nat)
    {d : Nat}
    (hd : 0 < d) :
    halfEven ((n : ℚ) / d) = roundHalfEven n d := by
  have hfloor : ⌊(n : ℚ) / d⌋ = (n / d : ℕ) := Rat.floor_natCast_div_natCast n d
  have hpos : (0 : ℚ) < d := by exact_mod_cast hd
  have hfract : Int.fract ((n : ℚ) / d) * d = (n % d : ℕ) := by
    rw [Int.fract, hfloor, sub_mul, div_mul_cancel₀ _ hpos.ne', sub_eq_iff_eq_add,
      Int.cast_natCast]
    exact_mod_cast (Nat.mod_add_div' n d).symm
  have hlow : 2 * Int.fract ((n : ℚ) / d) < 1 ↔ 2 * (n % d) < d := by
    rw [← mul_lt_mul_iff_left₀ hpos, mul_assoc, hfract, one_mul]
    exact_mod_cast Iff.rfl
  have hhigh : 1 < 2 * Int.fract ((n : ℚ) / d) ↔ d < 2 * (n % d) := by
    rw [← mul_lt_mul_iff_left₀ hpos, mul_assoc, hfract, one_mul]
    exact_mod_cast Iff.rfl
  simp only [halfEven, roundHalfEven, hlow, hhigh, hfloor]
  split_ifs <;> simp

namespace Decimal

variable {d x y z : Decimal} {p q : ℚ}

/-! ## Rounding to the places of a product -/

/-- The power of the last place to which a product is rounded. -/
def lastPlace (q : ℚ) : ℤ := max leastPower (Int.log 10 q + 1 - precision)

/-- A product that is not negative, rounded to the nearest multiple of its last place. -/
def rounded (q : ℚ) : ℚ := halfEven (q / 10 ^ lastPlace q) * 10 ^ lastPlace q

theorem rounded_zero : rounded 0 = 0 := by
  simp [rounded, halfEven]

theorem rounded_le_of_le_multiple
    {n : ℤ}
    (h : q ≤ n * 10 ^ lastPlace q) :
    rounded q ≤ n * 10 ^ lastPlace q := by
  have hpos : (0 : ℚ) < 10 ^ lastPlace q := by positivity
  have hnearest := halfEven_mono ((div_le_iff₀ hpos).mpr h)
  rw [halfEven_intCast] at hnearest
  exact mul_le_mul_of_nonneg_right (by exact_mod_cast hnearest) hpos.le

theorem le_rounded_of_multiple_le
    {n : ℤ}
    (h : n * 10 ^ lastPlace q ≤ q) :
    n * 10 ^ lastPlace q ≤ rounded q := by
  have hpos : (0 : ℚ) < 10 ^ lastPlace q := by positivity
  have hnearest := halfEven_mono ((le_div_iff₀ hpos).mpr h)
  rw [halfEven_intCast] at hnearest
  exact mul_le_mul_of_nonneg_right (by exact_mod_cast hnearest) hpos.le

/-- A multiple of a power of ten is one of every lower power. -/
theorem exists_multiple
    {e e' : ℤ}
    (he : e ≤ e')
    (n : ℤ) :
    ∃ m : ℤ, (n : ℚ) * 10 ^ e' = m * 10 ^ e := by
  refine ⟨n * 10 ^ (e' - e).toNat, ?_⟩
  have hsplit : (10 : ℚ) ^ e' = (10 : ℚ) ^ (e' - e).toNat * 10 ^ e := by
    rw [← zpow_natCast, ← zpow_add₀ (by norm_num)]
    congr 1
    omega
  rw [hsplit]
  push_cast
  ring

theorem rounded_le_zpow
    {e : ℤ}
    (he : lastPlace q ≤ e)
    (h : q ≤ 10 ^ e) :
    rounded q ≤ 10 ^ e := by
  obtain ⟨m, hm⟩ := exists_multiple he 1
  rw [Int.cast_one, one_mul] at hm
  rw [hm] at h ⊢
  exact rounded_le_of_le_multiple h

theorem zpow_le_rounded
    {e : ℤ}
    (he : lastPlace q ≤ e)
    (h : 10 ^ e ≤ q) :
    10 ^ e ≤ rounded q := by
  obtain ⟨m, hm⟩ := exists_multiple he 1
  rw [Int.cast_one, one_mul] at hm
  rw [hm] at h ⊢
  exact le_rounded_of_multiple_le h

theorem rounded_nonneg
    (h : 0 ≤ q) :
    0 ≤ rounded q := by
  have hzero := le_rounded_of_multiple_le (q := q) (n := 0) (by simpa using h)
  simpa using hzero

/-- A multiple of the last place is not rounded. -/
theorem rounded_of_multiple
    {e n : ℤ}
    (he : lastPlace q ≤ e)
    (h : q = n * 10 ^ e) :
    rounded q = q := by
  obtain ⟨m, hm⟩ := exists_multiple he n
  have hmultiple : q = m * 10 ^ lastPlace q := h.trans hm
  refine le_antisymm ?_ ?_
  · exact (rounded_le_of_le_multiple hmultiple.le).trans_eq hmultiple.symm
  · exact hmultiple.le.trans (le_rounded_of_multiple_le hmultiple.ge)

/-- A product that has few enough digits, in places that are not too low, is not rounded. -/
theorem rounded_eq_self
    {c : Nat} {e : ℤ}
    (hc : c < 10 ^ precision)
    (he : leastPower ≤ e)
    (h : q = c * 10 ^ e) :
    rounded q = q := by
  rcases Nat.eq_zero_or_pos c with rfl | hpos
  · have hzero : q = 0 := by simpa using h
    rw [hzero, rounded_zero]
  have hqpos : 0 < q := by
    rw [h]
    positivity
  have hlt : q < 10 ^ (precision + e : ℤ) := by
    rw [h, zpow_add₀ (by norm_num), zpow_natCast]
    exact mul_lt_mul_of_pos_right (by exact_mod_cast hc) (by positivity)
  have hlog := (Int.lt_zpow_iff_log_lt (b := 10) (by decide) hqpos).mp (by exact_mod_cast hlt)
  refine rounded_of_multiple (e := e) (n := c) ?_ (by exact_mod_cast h)
  simp only [lastPlace]
  omega

theorem abs_rounded_sub_le (q : ℚ) : |rounded q - q| ≤ 10 ^ lastPlace q / 2 := by
  have hpos : (0 : ℚ) < 10 ^ lastPlace q := by positivity
  have hfactor : rounded q - q =
      (halfEven (q / 10 ^ lastPlace q) - q / 10 ^ lastPlace q) * 10 ^ lastPlace q := by
    rw [sub_mul, div_mul_cancel₀ _ hpos.ne', rounded]
  rw [hfactor, abs_mul, abs_of_pos hpos]
  calc _ ≤ 1 / 2 * (10 : ℚ) ^ lastPlace q :=
        mul_le_mul_of_nonneg_right (abs_halfEven_sub_le _) hpos.le
    _ = 10 ^ lastPlace q / 2 := by ring

theorem lastPlace_mono
    (hp : 0 < p)
    (h : p ≤ q) :
    lastPlace p ≤ lastPlace q := by
  have hlog := Int.log_mono_right (b := 10) hp h
  simp only [lastPlace]
  omega

/-- Rounding keeps the order. Where the larger number has a coarser last place, a power of ten lies
between the two that neither is rounded across. -/
theorem rounded_mono
    (hp : 0 ≤ p)
    (h : p ≤ q) :
    rounded p ≤ rounded q := by
  rcases hp.eq_or_lt with rfl | hpos
  · rw [rounded_zero]
    exact rounded_nonneg h
  rcases (lastPlace_mono hpos h).eq_or_lt with hplace | hplace
  · have hunit : (0 : ℚ) < 10 ^ lastPlace q := by positivity
    unfold rounded
    rw [hplace]
    refine mul_le_mul_of_nonneg_right ?_ hunit.le
    exact_mod_cast halfEven_mono (div_le_div_of_nonneg_right h hunit.le)
  · have hqpos : 0 < q := hpos.trans_le h
    have hlast : lastPlace q = Int.log 10 q + 1 - precision := by
      simp only [lastPlace] at hplace ⊢
      omega
    have hlog : Int.log 10 p < Int.log 10 q := by
      simp only [lastPlace] at hplace hlast
      omega
    have hlow : p < 10 ^ Int.log 10 q := by
      exact_mod_cast (Int.lt_zpow_iff_log_lt (b := 10) (by decide) hpos).mpr hlog
    have hhigh : 10 ^ Int.log 10 q ≤ q := by
      exact_mod_cast Int.zpow_log_le_self (b := 10) (by decide) hqpos
    have hplaceq : lastPlace q ≤ Int.log 10 q := by
      simp only [hlast, precision]
      omega
    exact (rounded_le_zpow (hplace.le.trans hplaceq) hlow.le).trans (zpow_le_rounded hplaceq hhigh)

/-! ## The rounding of digits -/

theorem targetExponent_eq_lastPlace
    (hd : d.coefficient ≠ 0) :
    d.targetExponent = lastPlace |d.value| := by
  rw [targetExponent, lastPlace, log_abs_value hd]

theorem roundHalfEven_eq_zero
    {n m : Nat}
    (h : 2 * n < m) :
    roundHalfEven n m = 0 := by
  have hquotient : n / m = 0 := Nat.div_eq_of_lt (by omega)
  have hremainder : n % m = n := Nat.mod_eq_of_lt (by omega)
  simp [roundHalfEven, hquotient, hremainder, h]

theorem coefficient_roundTo
    {shift : Nat} {e : Int}
    (he : e = d.exponent + shift) :
    (d.roundTo e).coefficient = roundHalfEven d.coefficient (10 ^ shift) := by
  have hshift : e - d.exponent = shift := by omega
  simp only [roundTo, hshift, Int.toNat_natCast, Int.ofNat_eq_natCast, Nat.cast_lt]
  split
  · rename_i hfar
    have hcoefficient := d.coefficient_lt_pow
    have hpow : 10 ^ (d.digitCount + 1) ≤ 10 ^ shift := Nat.pow_le_pow_right (by decide) hfar
    rw [Nat.pow_succ] at hpow
    exact (roundHalfEven_eq_zero (by omega)).symm
  · rfl

theorem exponent_roundTo (e : Int) (d : Decimal) : (d.roundTo e).exponent = e := by
  simp only [roundTo]
  split <;> rfl

theorem negative_roundTo (e : Int) (d : Decimal) : (d.roundTo e).negative = d.negative := by
  simp only [roundTo]
  split <;> rfl

theorem negative_dropCarry (d : Decimal) : d.dropCarry.negative = d.negative := by
  unfold dropCarry
  split <;> rfl

theorem abs_value_roundTo
    {e : Int}
    (he : d.exponent ≤ e) :
    |(d.roundTo e).value| = halfEven (|d.value| / 10 ^ e) * 10 ^ e := by
  obtain ⟨shift, hshift⟩ := Int.le.dest he
  have hquotient : |d.value| / (10 : ℚ) ^ e = (d.coefficient : ℚ) / (10 ^ shift : ℕ) := by
    rw [abs_value, ← hshift, zpow_add₀ (by norm_num), zpow_natCast, Nat.cast_pow, Nat.cast_ofNat,
      mul_comm ((10 : ℚ) ^ d.exponent), mul_div_mul_right _ _ (by positivity)]
  rw [abs_value, exponent_roundTo, coefficient_roundTo hshift.symm, hquotient,
    halfEven_natCast_div _ (Nat.pow_pos (by decide)), Int.cast_natCast]

/-- A rounded number has one digit too many only if it is a power of ten. -/
theorem coefficient_roundTo_le (h : d.exponent < d.targetExponent) :
    (d.roundTo d.targetExponent).coefficient ≤ 10 ^ precision := by
  obtain ⟨shift, hshift⟩ := Int.le.dest h.le
  rw [coefficient_roundTo hshift.symm]
  have hplace : d.digitCount ≤ shift + precision := by
    simp only [targetExponent, adjusted] at hshift
    omega
  by_cases hfar : shift ≤ d.digitCount
  · exact (roundHalfEven_bounds hfar d.coefficient_lt_pow).2.trans
      (Nat.pow_le_pow_right (by decide) (by omega))
  · have hcoefficient := d.coefficient_lt_pow
    have hpow : 10 ^ (d.digitCount + 1) ≤ 10 ^ shift := Nat.pow_le_pow_right (by decide) (by omega)
    rw [Nat.pow_succ] at hpow
    rw [roundHalfEven_eq_zero (by omega)]
    exact Nat.zero_le _

theorem abs_value_dropCarry
    (h : d.coefficient ≤ 10 ^ precision) :
    |d.dropCarry.value| = |d.value| := by
  unfold dropCarry
  split
  · rename_i hlong
    have hpower : d.coefficient = 10 ^ precision :=
      le_antisymm h ((lt_digitCount_iff (by decide)).mp hlong)
    rw [abs_value, abs_value, zpow_add₀ (by norm_num)]
    simp only [hpower, precision]
    norm_num
    ring
  · rfl

/-- Rounding digits is rounding the value. -/
theorem abs_value_rounded
    (hd : d.coefficient ≠ 0)
    (h : d.exponent < d.targetExponent) :
    |(d.roundTo d.targetExponent).dropCarry.value| = rounded |d.value| := by
  rw [abs_value_dropCarry (coefficient_roundTo_le h), abs_value_roundTo h.le, rounded,
    targetExponent_eq_lastPlace hd]

/-- A number with no digit below its last place is not rounded. -/
theorem rounded_abs_value
    (hd : d.coefficient ≠ 0)
    (h : d.targetExponent ≤ d.exponent) :
    rounded |d.value| = |d.value| := by
  refine rounded_of_multiple (e := d.exponent) (n := d.coefficient) ?_ (by exact_mod_cast d.abs_value)
  rwa [← targetExponent_eq_lastPlace hd]

/-- The place of the first digit is too high exactly if the magnitude is too large. -/
theorem lt_adjusted_iff
    {e : ℤ} :
    d.coefficient ≠ 0 ∧ e < d.adjusted ↔ (10 : ℚ) ^ (e + 1) ≤ |d.value| := by
  constructor
  · rintro ⟨hd, h⟩
    calc (10 : ℚ) ^ (e + 1) ≤ 10 ^ d.adjusted := zpow_le_zpow_right₀ (by norm_num) h
      _ ≤ |d.value| := zpow_le_abs_value hd
  · intro h
    have hlt := h.trans_lt d.abs_value_lt_zpow
    have hpos : (0 : ℚ) < |d.value| := lt_of_lt_of_le (by positivity) h
    rw [zpow_lt_zpow_iff_right₀ (by norm_num)] at hlt
    exact ⟨fun hzero => hpos.ne' (abs_eq_zero.mpr (value_eq_zero_iff.mpr hzero)), by omega⟩

/-- A number comes out rounded, unless it is then beyond the range. -/
theorem finish?_spec (d : Decimal) :
    (d.finish? = none ∧ (10 : ℚ) ^ (greatestPower + 1) ≤ rounded |d.value|) ∨
      ∃ r, d.finish? = some r ∧ r.negative = d.negative ∧ |r.value| = rounded |d.value| ∧
        rounded |d.value| < (10 : ℚ) ^ (greatestPower + 1) := by
  by_cases hd : d.coefficient = 0
  · have hvalue : d.value = 0 := value_eq_zero_iff.mpr hd
    refine .inr ⟨_, if_pos hd, rfl, ?_, ?_⟩
    · rw [hvalue, abs_zero, rounded_zero]
      exact abs_eq_zero.mpr (value_eq_zero_iff.mpr hd)
    · rw [hvalue, abs_zero, rounded_zero]
      positivity
  rw [finish?, if_neg hd]
  by_cases hlarge : greatestPower < d.adjusted
  · rw [if_pos hlarge]
    have hplace : lastPlace |d.value| ≤ d.adjusted := by
      rw [← targetExponent_eq_lastPlace hd]
      simp only [targetExponent, leastPower, greatestPower, precision] at *
      omega
    refine .inl ⟨rfl, ?_⟩
    calc (10 : ℚ) ^ (greatestPower + 1) ≤ 10 ^ d.adjusted :=
          zpow_le_zpow_right₀ (by norm_num) hlarge
      _ ≤ rounded |d.value| := zpow_le_rounded hplace (zpow_le_abs_value hd)
  rw [if_neg hlarge]
  by_cases hexact : d.targetExponent ≤ d.exponent
  · refine .inr ⟨d, by rw [if_pos hexact], rfl, (rounded_abs_value hd hexact).symm, ?_⟩
    rw [rounded_abs_value hd hexact]
    exact not_le.mp fun hle => hlarge (lt_adjusted_iff.mpr hle).2
  · have hvalue := abs_value_rounded hd (not_le.mp hexact)
    rw [if_neg hexact]
    dsimp only
    by_cases hover : (d.roundTo d.targetExponent).dropCarry.coefficient ≠ 0 ∧
        greatestPower < (d.roundTo d.targetExponent).dropCarry.adjusted
    · rw [if_pos hover, ← hvalue]
      exact .inl ⟨rfl, lt_adjusted_iff.mp hover⟩
    · rw [if_neg hover]
      refine .inr ⟨_, rfl, ?_, hvalue, ?_⟩
      · rw [negative_dropCarry, negative_roundTo]
      · rw [← hvalue]
        exact not_le.mp (mt lt_adjusted_iff.mpr hover)

/-! ## Products of amounts -/

theorem abs_value_exactMul
    (hx : x.IsAmount)
    (hy : y.IsAmount) :
    |(x.exactMul y).value| = x.value * y.value := by
  rw [value_exactMul, abs_of_nonneg (mul_nonneg hx.value_nonneg hy.value_nonneg)]

/-- The product of amounts overflows exactly if it is beyond the range once it is rounded. -/
theorem mul?_eq_none_iff_rounded
    (hx : x.IsAmount)
    (hy : y.IsAmount) :
    x.mul? y = none ↔ (10 : ℚ) ^ (greatestPower + 1) ≤ rounded (x.value * y.value) := by
  rw [← abs_value_exactMul hx hy, mul?]
  rcases finish?_spec (x.exactMul y) with ⟨hnone, hle⟩ | ⟨r, hr, -, -, hlt⟩
  · exact ⟨fun _ => hle, fun _ => hnone⟩
  · rw [hr]
    exact iff_of_false (by rintro ⟨⟩) hlt.not_ge

/-- The product of amounts is their exact product, rounded. -/
theorem mul?_spec
    (hx : x.IsAmount)
    (hy : y.IsAmount)
    (h : x.mul? y = some z) :
    z.value = rounded (x.value * y.value) := by
  rw [← abs_value_exactMul hx hy]
  rcases finish?_spec (x.exactMul y) with ⟨hnone, -⟩ | ⟨r, hr, hsign, hvalue, -⟩
  · rw [mul?, hnone] at h
    cases h
  · rw [mul?, hr] at h
    cases h
    by_cases hzero : (x.exactMul y).value = 0
    · rw [hzero, abs_zero, rounded_zero] at hvalue ⊢
      exact abs_eq_zero.mp hvalue
    · -- Both factors are positive, and so is the product.
      have hpositive : z.negative = false := by
        rw [value_eq_zero_iff] at hzero
        obtain ⟨hx', hy'⟩ := Nat.mul_ne_zero_iff.mp hzero
        have hxsign : x.negative = false := by simpa [IsAmount, isZero, hx'] using hx
        have hysign : y.negative = false := by simpa [IsAmount, isZero, hy'] using hy
        rw [hsign]
        simp [exactMul, hxsign, hysign]
      rw [value_of_not_negative hpositive, hvalue]

end Decimal
end RollupAudit
