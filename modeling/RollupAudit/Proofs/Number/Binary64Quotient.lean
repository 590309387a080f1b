import Mathlib.Tactic.Linarith
import Mathlib.Tactic.Ring
import RollupAudit.Proofs.Number.Binary64Text

/-!
# The number nearest to a quotient

The number of the format that a quotient is rounded to is a whole number of its last place. It exceeds
an integer exactly if the quotient exceeds the integer by more than half the distance to the next
number: a quotient that lies closer is rounded to the integer itself.

**Results.**
* `units_nearestRank`: the number nearest to a quotient, as a multiple of its last place.
* `lt_units_nearestRank_iff`: when the number nearest to a quotient exceeds an integer.
* `compareInt?_ofQuotient_eq_gt_iff`: the same of the comparison with an integer.
-/

namespace RollupAudit

/-- A quotient is rounded to more than an even integer if it is more than half a unit above it. -/
theorem lt_roundHalfEven_iff
    {b n d : Nat}
    (heven : b % 2 = 0)
    (hd : 0 < d) :
    b < roundHalfEven n d ↔ (2 * b + 1) * d < 2 * n := by
  have hn : n = d * (n / d) + n % d := (Nat.div_add_mod n d).symm
  have hrest : n % d < d := Nat.mod_lt n hd
  have hor := roundHalfEven_eq_or n d
  rcases Nat.lt_trichotomy (n / d) b with hbelow | hat | habove
  · refine iff_of_false (by omega) ?_
    have hproduct : d * (n / d + 1) ≤ d * b := Nat.mul_le_mul_left d hbelow
    nlinarith
  · subst hat
    unfold roundHalfEven
    simp only [heven]
    constructor
    · intro h
      have : d < 2 * (n % d) := by
        split at h
        · omega
        · split at h <;> omega
      nlinarith
    · intro h
      have : d < 2 * (n % d) := by nlinarith
      rw [if_neg (by omega), if_pos this]
      omega
  · refine iff_of_true (by omega) ?_
    have hproduct : d * (b + 1) ≤ d * (n / d) := Nat.mul_le_mul_left d habove
    calc (2 * b + 1) * d < 2 * (d * (b + 1)) := by linarith
      _ ≤ 2 * (d * (n / d)) := Nat.mul_le_mul_left 2 hproduct
      _ ≤ 2 * n := Nat.mul_le_mul_left 2 (Nat.mul_div_le n d)

namespace Binary64

/-- A rank is a place and a significand, which may be one too large for the place. -/
theorem units_place_add
    {place m : Nat}
    (hm : m ≤ 2 ^ 53)
    (hnormal : 0 < place → 2 ^ 52 ≤ m) :
    units (place * 2 ^ 52 + m) = m * 2 ^ place := by
  unfold units
  by_cases hsmall : m < 2 ^ 52
  · obtain rfl : place = 0 := by
      by_contra hplace
      have := hnormal (Nat.pos_of_ne_zero hplace)
      omega
    have hplace : lastPlace (0 * 2 ^ 52 + m) = 0 := by
      unfold lastPlace
      omega
    rw [hplace, significand, if_pos (by omega)]
    omega
  · rcases Nat.lt_or_eq_of_le hm with hfits | rfl
    · have hplace : lastPlace (place * 2 ^ 52 + m) = place := by
        unfold lastPlace
        omega
      have hbits : significand (place * 2 ^ 52 + m) = m := by
        unfold significand
        rw [if_neg (by omega)]
        omega
      rw [hplace, hbits]
    · -- The carry moves the last place up.
      have hplace : lastPlace (place * 2 ^ 52 + 2 ^ 53) = place + 1 := by
        unfold lastPlace
        omega
      have hbits : significand (place * 2 ^ 52 + 2 ^ 53) = 2 ^ 52 := by
        unfold significand
        rw [if_neg (by omega)]
        omega
      rw [hplace, hbits, Nat.pow_succ 2 place]
      omega

/-- The last place of the number nearest to a quotient. -/
def quotientPlace (n d : Nat) : Nat := (n * unitsPerOne / d).log2 - 52

theorem roundHalfEven_quotientPlace_bounds
    (n d : Nat) :
    roundHalfEven (n * unitsPerOne) (d * 2 ^ quotientPlace n d) ≤ 2 ^ 53 ∧
      (0 < quotientPlace n d →
        2 ^ 52 ≤ roundHalfEven (n * unitsPerOne) (d * 2 ^ quotientPlace n d)) := by
  have hor := roundHalfEven_eq_or (n * unitsPerOne) (d * 2 ^ quotientPlace n d)
  rw [← Nat.div_div_eq_div_mul] at hor
  unfold quotientPlace at hor ⊢
  generalize n * unitsPerOne / d = q at hor ⊢
  have hupper : q / 2 ^ (q.log2 - 52) < 2 ^ 53 := by
    rw [Nat.div_lt_iff_lt_mul (Nat.two_pow_pos _), ← Nat.pow_add]
    exact Nat.lt_of_lt_of_le Nat.lt_log2_self (Nat.pow_le_pow_right (by decide) (by omega))
  refine ⟨by omega, fun hplace => ?_⟩
  have hlower : 2 ^ 52 ≤ q / 2 ^ (q.log2 - 52) := by
    have hne : q ≠ 0 := by
      rintro rfl
      simp at hplace
    rw [Nat.le_div_iff_mul_le (Nat.two_pow_pos _), ← Nat.pow_add]
    have hlog : 52 + (q.log2 - 52) = q.log2 := by omega
    rw [hlog]
    exact Nat.log2_self_le hne
  omega

/-- The number nearest to a quotient is the quotient in units of its last place, rounded. -/
theorem units_nearestRank
    (n d : Nat) :
    units (nearestRank n d) =
      roundHalfEven (n * unitsPerOne) (d * 2 ^ quotientPlace n d) * 2 ^ quotientPlace n d :=
  units_place_add (roundHalfEven_quotientPlace_bounds n d).1 (roundHalfEven_quotientPlace_bounds n d).2

/-- A quotient of few enough whole digits is rounded to a place below one half. -/
theorem quotientPlace_lt
    {n d : Nat}
    (hn : n < 2 ^ 52 * d) :
    quotientPlace n d < 1074 := by
  have hlt : n * unitsPerOne / d < 2 ^ (52 + 1074) := by
    refine Nat.div_lt_of_lt_mul ?_
    calc n * unitsPerOne < 2 ^ 52 * d * unitsPerOne := Nat.mul_lt_mul_of_pos_right hn unitsPerOne_pos
      _ = d * 2 ^ (52 + 1074) := by
        rw [unitsPerOne, Nat.pow_add, Nat.mul_comm (2 ^ 52) d, Nat.mul_assoc]
  unfold quotientPlace
  by_cases hzero : n * unitsPerOne / d = 0
  · simp [hzero]
  · have := (Nat.log2_lt hzero).mpr hlt
    omega

/-- The number nearest to a quotient exceeds an integer if the quotient exceeds it by more than half a
unit of the last place. -/
theorem lt_units_nearestRank_iff_place
    {b n d : Nat}
    (hd : 0 < d)
    (hn : n < 2 ^ 52 * d) :
    b * unitsPerOne < units (nearestRank n d) ↔
      2 * (b * d * unitsPerOne) + d * 2 ^ quotientPlace n d < 2 * (n * unitsPerOne) := by
  rw [units_nearestRank]
  obtain ⟨k, hk⟩ : ∃ k, 1074 = k + 1 + quotientPlace n d :=
    ⟨1073 - quotientPlace n d, by have := quotientPlace_lt hn; omega⟩
  generalize quotientPlace n d = place at hk ⊢
  have hunits : unitsPerOne = 2 ^ (k + 1) * 2 ^ place := by
    rw [unitsPerOne, hk, Nat.pow_add]
  have hpos : 0 < 2 ^ place := Nat.two_pow_pos place
  -- The integer is an even multiple of the last place, so that a tie is rounded to it.
  have heven : b * 2 ^ (k + 1) % 2 = 0 := by
    rw [Nat.pow_succ, ← Nat.mul_assoc, Nat.mul_mod_left]
  have hmultiple : b * unitsPerOne = b * 2 ^ (k + 1) * 2 ^ place := by
    rw [hunits, Nat.mul_assoc]
  rw [hmultiple, Nat.mul_lt_mul_right hpos, lt_roundHalfEven_iff heven (Nat.mul_pos hd hpos)]
  have hsides : (2 * (b * 2 ^ (k + 1)) + 1) * (d * 2 ^ place) =
      2 * (b * d * unitsPerOne) + d * 2 ^ place := by
    rw [hunits]
    ring
  rw [hsides]

theorem two_pow_le_unitsPerOne : 2 ^ 53 ≤ unitsPerOne := by decide +kernel

theorem log2_mul_two_pow_div
    {n d : Nat}
    (hd : 0 < d)
    (hle : d ≤ n)
    (k : Nat) :
    (n * 2 ^ k / d).log2 = (n / d).log2 + k := by
  have hlower := Nat.log2_self_le (Nat.ne_of_gt (Nat.div_pos hle hd))
  have hupper : n / d < 2 ^ ((n / d).log2 + 1) := Nat.lt_log2_self
  rw [Nat.le_div_iff_mul_le hd] at hlower
  rw [Nat.div_lt_iff_lt_mul hd] at hupper
  have hlower' : 2 ^ ((n / d).log2 + k) ≤ n * 2 ^ k / d := by
    rw [Nat.le_div_iff_mul_le hd, Nat.pow_add, Nat.mul_right_comm]
    exact Nat.mul_le_mul_right _ hlower
  have hupper' : n * 2 ^ k / d < 2 ^ ((n / d).log2 + k + 1) := by
    rw [Nat.div_lt_iff_lt_mul hd, Nat.add_right_comm, Nat.pow_add, Nat.mul_right_comm]
    exact Nat.mul_lt_mul_of_pos_right hupper (Nat.two_pow_pos k)
  refine (Nat.log2_eq_iff ?_).mpr ⟨hlower', hupper'⟩
  exact Nat.ne_of_gt (Nat.lt_of_lt_of_le (Nat.two_pow_pos _) hlower')

/-- The last place of a quotient of at least one, by the whole part of the quotient. -/
theorem quotientPlace_eq
    {n d : Nat}
    (hd : 0 < d)
    (hle : d ≤ n) :
    quotientPlace n d = (n / d).log2 + 1022 := by
  have hlog := log2_mul_two_pow_div hd hle 1074
  rw [quotientPlace, unitsPerOne, hlog]
  omega

/-- The last place of a quotient is not above the quotient. -/
theorem mul_two_pow_quotientPlace_le
    {n d : Nat}
    (hn : n ≠ 0)
    (hsmall : d ≤ unitsPerOne)
    (hd : 0 < d) :
    d * 2 ^ quotientPlace n d ≤ n * unitsPerOne := by
  have hone : d ≤ n * unitsPerOne :=
    Nat.le_trans hsmall (Nat.le_mul_of_pos_left _ (Nat.pos_of_ne_zero hn))
  have hne : n * unitsPerOne / d ≠ 0 := Nat.ne_of_gt (Nat.div_pos hone hd)
  have hpow : 2 ^ quotientPlace n d ≤ n * unitsPerOne / d :=
    Nat.le_trans (Nat.pow_le_pow_right (by decide) (Nat.sub_le _ _)) (Nat.log2_self_le hne)
  exact Nat.le_trans (Nat.mul_le_mul_left d hpow) (Nat.mul_div_le _ d)

/-- Half the distance to the next number may be taken at the quotient or at the integer: they differ
only where the quotient exceeds the integer by one at least. -/
theorem add_mul_log2_div_lt_iff
    {b n d : Nat}
    (hd : 0 < d)
    (hle : b * d ≤ n)
    (hn : n < 2 ^ 52 * d) :
    b * d * 2 ^ 53 + d * 2 ^ (n / d).log2 < n * 2 ^ 53 ↔
      b * d * 2 ^ 53 + d * 2 ^ b.log2 < n * 2 ^ 53 := by
  have hwhole : b ≤ n / d := (Nat.le_div_iff_mul_le hd).mpr hle
  by_cases hnext : b + 1 ≤ n / d
  · have hfar : (b + 1) * d ≤ n := (Nat.le_div_iff_mul_le hd).mp hnext
    have hexceeds {e : Nat} (he : e < 53) : b * d * 2 ^ 53 + d * 2 ^ e < n * 2 ^ 53 := by
      have hpow : d * 2 ^ e < d * 2 ^ 53 :=
        Nat.mul_lt_mul_of_pos_left (Nat.pow_lt_pow_right (by decide) he) hd
      calc b * d * 2 ^ 53 + d * 2 ^ e < b * d * 2 ^ 53 + d * 2 ^ 53 := Nat.add_lt_add_left hpow _
        _ = (b + 1) * d * 2 ^ 53 := by ring
        _ ≤ n * 2 ^ 53 := Nat.mul_le_mul_right _ hfar
    have hlog {k : Nat} (hk : k ≤ n / d) : k.log2 < 53 := by
      have hquotient : n / d < 2 ^ 52 := (Nat.div_lt_iff_lt_mul hd).mpr hn
      by_cases hzero : k = 0
      · simp [hzero]
      · exact (Nat.log2_lt hzero).mpr (by omega)
    exact iff_of_true (hexceeds (hlog (Nat.le_refl _))) (hexceeds (hlog hwhole))
  · have hsame : n / d = b := by omega
    rw [hsame]

/-- The number nearest to a quotient exceeds an integer exactly if the quotient exceeds the integer by
more than half the distance from the integer to the next number of the format. -/
theorem lt_units_nearestRank_iff
    {b n d : Nat}
    (hd : 0 < d)
    (hsmall : d < 2 ^ 53)
    (hn : n < 2 ^ 52 * d) :
    b * unitsPerOne < units (nearestRank n d) ↔ b * d * 2 ^ 53 + d * 2 ^ b.log2 < n * 2 ^ 53 := by
  rw [lt_units_nearestRank_iff_place hd hn]
  have hpos : 0 < unitsPerOne := unitsPerOne_pos
  rcases Nat.lt_or_ge n (b * d) with hbelow | habove
  · -- A quotient below the integer does not exceed it.
    have := Nat.mul_lt_mul_of_pos_right hbelow hpos
    exact iff_of_false (by omega) (by omega)
  by_cases hle : d ≤ n
  · have hscale (x : Nat) : 2 * (b * d * (2 ^ 52 * x)) + d * (2 ^ (n / d).log2 * x) =
        (b * d * 2 ^ 53 + d * 2 ^ (n / d).log2) * x := by ring
    have hquotient (x : Nat) : 2 * (n * (2 ^ 52 * x)) = n * 2 ^ 53 * x := by ring
    have hunits : unitsPerOne = 2 ^ 52 * 2 ^ 1022 := by rw [unitsPerOne, ← Nat.pow_add]
    have hplace (k : Nat) : 2 ^ ((n / d).log2 + k) = 2 ^ (n / d).log2 * 2 ^ k := Nat.pow_add 2 _ k
    rw [quotientPlace_eq hd hle, hplace, hunits, hscale, hquotient,
      Nat.mul_lt_mul_right (Nat.two_pow_pos 1022)]
    exact add_mul_log2_div_lt_iff hd habove hn
  · -- A quotient below one exceeds no integer but zero.
    obtain rfl : b = 0 := by
      by_contra hne
      have := Nat.le_mul_of_pos_left d (Nat.pos_of_ne_zero hne)
      omega
    by_cases hzero : n = 0
    · subst hzero
      have := Nat.mul_pos hd (Nat.two_pow_pos (quotientPlace 0 d))
      exact iff_of_false (by omega) (by omega)
    · have hplace := mul_two_pow_quotientPlace_le hzero (Nat.le_trans hsmall.le two_pow_le_unitsPerOne) hd
      have hunit := Nat.mul_pos (Nat.pos_of_ne_zero hzero) hpos
      exact iff_of_true (by omega) (by simp; omega)

/-- The number nearest to a quotient of few enough whole digits is finite. -/
theorem nearestRank_lt_finiteRanks
    {n d : Nat}
    (hn : n < 2 ^ 52 * d) :
    nearestRank n d < finiteRanks := by
  have hplace := quotientPlace_lt hn
  have hbits := (roundHalfEven_quotientPlace_bounds n d).1
  have hsplit : nearestRank n d = quotientPlace n d * 2 ^ 52 +
      roundHalfEven (n * unitsPerOne) (d * 2 ^ quotientPlace n d) := rfl
  rw [hsplit, finiteRanks]
  omega

/-- The number nearest to a quotient is greater than an integer exactly if the quotient exceeds the
integer by more than half the distance from the integer to the next number of the format. -/
theorem compareInt?_ofQuotient_eq_gt_iff
    {b n d : Nat}
    (hd : 0 < d)
    (hsmall : d < 2 ^ 53)
    (hn : n < 2 ^ 52 * d) :
    (ofQuotient false n d).compareInt? b = some .gt ↔
      b * d * 2 ^ 53 + d * 2 ^ b.log2 < n * 2 ^ 53 := by
  have hsides : (b : Int) * Int.ofNat unitsPerOne < Int.ofNat (units (nearestRank n d)) ↔
      b * unitsPerOne < units (nearestRank n d) := by
    rw [Int.ofNat_eq_natCast, Int.ofNat_eq_natCast, ← Int.natCast_mul, Int.ofNat_lt]
  rw [ofQuotient, ofRank, dif_pos (nearestRank_lt_finiteRanks hn), compareInt?, Option.some.injEq,
    Int.compare_eq_gt, ← lt_units_nearestRank_iff hd hsmall hn]
  exact hsides

end Binary64
end RollupAudit
