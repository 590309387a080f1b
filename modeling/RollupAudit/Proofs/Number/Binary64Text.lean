import RollupAudit.Number.Binary64Text
import RollupAudit.Proofs.Text.Scientific

/-!
# Texts of binary floating-point numbers

Reading a numeral gives the nearest number, which depends on the value of the numeral and not on how
it is split into a coefficient and a power of ten. The digits that a finite number is written with
read back as the number: those of the shortest text because they were tried, those of the exact
expansion because a number is the nearest one to itself. So does every layout of these digits.

**Results.**
* `nearestRank_units`: a finite number is the nearest one to its own value.
* `ofScaled_mul_pow`: powers of ten may move between coefficient and exponent.
* `exists_numeral`: a finite number is written as a numeral that reads back as it.
-/

namespace RollupAudit

/-- A quotient is rounded to the same number when both its parts are multiplied. -/
theorem roundHalfEven_mul_right
    (n d : Nat)
    {m : Nat}
    (hm : 0 < m) :
    roundHalfEven (n * m) (d * m) = roundHalfEven n d := by
  have htwice : 2 * (n % d * m) = 2 * (n % d) * m := by rw [Nat.mul_assoc]
  unfold roundHalfEven
  rw [Nat.mul_div_mul_right n d hm, Nat.mul_mod_mul_right, htwice]
  simp only [Nat.mul_lt_mul_right hm]

namespace Binary64

open Text

theorem unitsPerOne_pos : 0 < unitsPerOne := by decide +kernel

/-- The nearest number depends on the quotient alone. -/
theorem nearestRank_mul_right
    (n d : Nat)
    {m : Nat}
    (hm : 0 < m) :
    nearestRank (n * m) (d * m) = nearestRank n d := by
  have hscaled : n * m * unitsPerOne = n * unitsPerOne * m := Nat.mul_right_comm n m unitsPerOne
  have hplace (place : Nat) : d * m * 2 ^ place = d * 2 ^ place * m :=
    Nat.mul_right_comm d m (2 ^ place)
  unfold nearestRank
  simp only [hscaled, Nat.mul_div_mul_right _ d hm, hplace, roundHalfEven_mul_right _ _ hm]

theorem nearestRank_unitsPerOne
    (u : Nat) :
    nearestRank u unitsPerOne =
      (u.log2 - 52) * 2 ^ 52 + roundHalfEven u (2 ^ (u.log2 - 52)) := by
  unfold nearestRank
  simp only [Nat.mul_div_cancel _ unitsPerOne_pos, Nat.mul_comm unitsPerOne,
    roundHalfEven_mul_right _ _ unitsPerOne_pos]

/-- A finite number is the nearest one to its own value. -/
theorem nearestRank_units
    {rank : Nat}
    (hpos : 0 < rank) :
    nearestRank (units rank) unitsPerOne = rank := by
  rw [nearestRank_unitsPerOne]
  unfold units
  by_cases hsmall : rank < 2 ^ 52
  · have hplace : lastPlace rank = 0 := by
      rw [lastPlace, Nat.div_eq_of_lt hsmall]
    have hlog : rank.log2 - 52 = 0 := by
      have := (Nat.log2_lt (Nat.ne_of_gt hpos)).mpr hsmall
      omega
    have hround := roundHalfEven_mul rank Nat.one_pos
    rw [Nat.mul_one] at hround
    rw [significand, if_pos hsmall, hplace, Nat.pow_zero, Nat.mul_one, hlog, Nat.pow_zero, hround]
    omega
  · have hlog : (significand rank * 2 ^ lastPlace rank).log2 = 52 + lastPlace rank := by
      have hbits : 2 ^ 52 ≤ significand rank ∧ significand rank < 2 ^ 53 := by
        have := Nat.mod_lt rank (Nat.two_pow_pos 52)
        rw [significand, if_neg hsmall]
        omega
      have hpow := Nat.two_pow_pos (lastPlace rank)
      have hne : significand rank * 2 ^ lastPlace rank ≠ 0 :=
        Nat.mul_ne_zero (by omega) (Nat.ne_of_gt hpow)
      rw [Nat.log2_eq_iff hne]
      constructor
      · rw [Nat.pow_add]
        exact Nat.mul_le_mul_right _ hbits.1
      · rw [Nat.add_right_comm, Nat.pow_add]
        exact Nat.mul_lt_mul_of_pos_right hbits.2 hpow
    rw [hlog, Nat.add_sub_cancel_left, roundHalfEven_mul _ (Nat.two_pow_pos _), significand,
      if_neg hsmall, lastPlace]
    omega

theorem toDigits_mul_pow
    {c : Nat}
    (hc : 0 < c) :
    ∀ k, Nat.toDigits 10 (c * 10 ^ k) = Nat.toDigits 10 c ++ List.replicate k '0'
  | 0 => by simp
  | k + 1 => by
    have ih := toDigits_mul_pow hc k
    have hpow : 0 < 10 ^ k := Nat.pow_pos (by decide)
    have hpos : 0 < c * 10 ^ k := Nat.mul_pos hc hpow
    have hshift : c * 10 ^ (k + 1) = c * 10 ^ k * 10 := by rw [Nat.pow_succ, Nat.mul_assoc]
    rw [hshift, Nat.toDigits_of_base_le (by decide) (by omega), Nat.mul_div_cancel _ (by decide), ih,
      Nat.mul_mod_left, List.replicate_succ', List.append_assoc]
    rfl

/-- Powers of ten may move between the coefficient and the exponent of what is read. -/
theorem ofScaled_mul_pow
    (negative : Bool)
    (c k : Nat)
    (e : Int) :
    ofScaled negative (c * 10 ^ k) (e - k) = ofScaled negative c e := by
  by_cases hc : c = 0
  · simp [ofScaled, hc]
  · have hpos : 0 < c := Nat.pos_of_ne_zero hc
    have hpow (j : Nat) : 0 < 10 ^ j := Nat.pow_pos (by decide)
    have hne : c * 10 ^ k ≠ 0 := Nat.mul_ne_zero hc (Nat.ne_of_gt (hpow k))
    have htop : Int.ofNat (Nat.toDigits 10 (c * 10 ^ k)).length + (e - k) =
        Int.ofNat (Nat.toDigits 10 c).length + e := by
      rw [toDigits_mul_pow hpos, List.length_append, List.length_replicate]
      simp only [Int.ofNat_eq_natCast, Int.natCast_add]
      omega
    have hquotient : (if 0 ≤ e - k then ofQuotient negative (c * 10 ^ k * 10 ^ (e - k).toNat) 1
        else ofQuotient negative (c * 10 ^ k) (10 ^ (-(e - k)).toNat)) =
        if 0 ≤ e then ofQuotient negative (c * 10 ^ e.toNat) 1
        else ofQuotient negative c (10 ^ (-e).toNat) := by
      unfold ofQuotient
      by_cases he : 0 ≤ e
      · rw [if_pos he]
        split
        · have hsum : k + (e - k).toNat = e.toNat := by omega
          rw [Nat.mul_assoc, ← Nat.pow_add, hsum]
        · -- The exponent turns negative: the quotient is that of the integer, both parts multiplied.
          have hsum : e.toNat + (-(e - k)).toNat = k := by omega
          have hscale := nearestRank_mul_right (c * 10 ^ e.toNat) 1 (hpow (-(e - k)).toNat)
          rw [Nat.mul_assoc, ← Nat.pow_add, hsum, Nat.one_mul] at hscale
          rw [hscale]
      · rw [if_neg he, if_neg (by omega)]
        have hsum : (-(e - k)).toNat = (-e).toNat + k := by omega
        rw [hsum, Nat.pow_add, nearestRank_mul_right c _ (hpow k)]
    unfold ofScaled
    simp only [if_neg hc, if_neg hne, htop, hquotient]

/-- What a quotient is without a sign, it is with a minus but for the sign. -/
theorem ofQuotient_of_eq
    {n d rank : Nat} {hrank : rank < finiteRanks}
    (h : ofQuotient false n d = .finite false ⟨rank, hrank⟩)
    (negative : Bool) :
    ofQuotient negative n d = .finite negative ⟨rank, hrank⟩ := by
  unfold ofQuotient ofRank at h ⊢
  split at h
  · rename_i hlt
    rw [dif_pos hlt]
    cases h
    rfl
  · cases h

/-- What a numeral is read as without a sign, it is read as with a minus but for the sign. -/
theorem ofScaled_of_eq
    {c rank : Nat} {e : Int} {hrank : rank < finiteRanks}
    (h : ofScaled false c e = .finite false ⟨rank, hrank⟩)
    (negative : Bool) :
    ofScaled negative c e = .finite negative ⟨rank, hrank⟩ := by
  unfold ofScaled at h ⊢
  by_cases hc : c = 0
  · rw [if_pos hc] at h ⊢
    cases h
    rfl
  · rw [if_neg hc] at h ⊢
    by_cases hlarge : 400 < Int.ofNat (Nat.toDigits 10 c).length + e
    · simp only [if_pos hlarge] at h
      cases h
    · by_cases hsmall : Int.ofNat (Nat.toDigits 10 c).length + e < -400
      · simp only [if_neg hlarge, if_pos hsmall] at h ⊢
        cases h
        rfl
      · simp only [if_neg hlarge, if_neg hsmall] at h ⊢
        by_cases he : 0 ≤ e
        · rw [if_pos he] at h ⊢
          exact ofQuotient_of_eq h negative
        · rw [if_neg he] at h ⊢
          exact ofQuotient_of_eq h negative

/-- How great the value of a finite number is in units. -/
theorem units_lt
    {rank : Nat}
    (hrank : rank < finiteRanks) :
    units rank < 2 ^ 53 * 2 ^ 2045 := by
  have hsignificand : significand rank < 2 ^ 53 := by
    unfold significand
    have := Nat.mod_lt rank (Nat.two_pow_pos 52)
    split <;> omega
  have hplace : lastPlace rank ≤ 2045 := by
    unfold lastPlace
    unfold finiteRanks at hrank
    omega
  have hbound (p : Nat) (hp : lastPlace rank ≤ p) : units rank < 2 ^ 53 * 2 ^ p :=
    Nat.lt_of_lt_of_le (Nat.mul_lt_mul_of_pos_right hsignificand (Nat.two_pow_pos _))
      (Nat.mul_le_mul_left _ (Nat.pow_le_pow_right (by decide) hp))
  exact hbound 2045 hplace

/-- A positive number is at least one unit. -/
theorem units_pos {rank : Nat} (hpos : 0 < rank) : 0 < units rank := by
  have hsignificand : 0 < significand rank := by
    unfold significand
    split <;> omega
  exact Nat.mul_pos hsignificand (Nat.two_pow_pos _)

theorem units_injective
    {rank other : Nat}
    (h : units rank = units other) :
    rank = other := by
  have hzero : units 0 = 0 := by simp [units, significand]
  rcases Nat.eq_zero_or_pos rank with rfl | hrank <;>
    rcases Nat.eq_zero_or_pos other with rfl | hother
  · rfl
  · have := units_pos hother
    omega
  · have := units_pos hrank
    omega
  · rw [← nearestRank_units hrank, h, nearestRank_units hother]

/-- The exact expansion of a number reads back as the number. -/
theorem ofScaled_exactExpansion
    {rank : Nat}
    (hrank : rank < finiteRanks)
    (hpos : 0 < rank) :
    ofScaled false (exactExpansion rank).1 (exactExpansion rank).2 = .finite false ⟨rank, hrank⟩ := by
  let c := units rank * 5 ^ 1074
  have hpow (j : Nat) : 0 < 5 ^ j := Nat.pow_pos (by decide)
  have hfive : 0 < 5 ^ 1074 := hpow 1074
  have hc : c ≠ 0 := Nat.mul_ne_zero (Nat.ne_of_gt (units_pos hpos)) (Nat.ne_of_gt hfive)
  -- The exponent is within the bounds beyond which reading is cut short.
  have hlong : (Nat.toDigits 10 c).length ≤ 1474 := by
    rw [Nat.length_toDigits_le_iff (by decide) (by decide)]
    have hmax : 2 ^ 53 * 2 ^ 2045 * 5 ^ 1074 ≤ 10 ^ 1474 := by decide +kernel
    exact Nat.lt_of_lt_of_le (Nat.mul_lt_mul_of_pos_right (units_lt hrank) hfive) hmax
  have hshort : ¬ (Nat.toDigits 10 c).length ≤ 673 := by
    rw [Nat.length_toDigits_le_iff (by decide) (by decide)]
    have hmin : 10 ^ 673 ≤ 5 ^ 1074 := by decide +kernel
    exact Nat.not_lt.mpr (Nat.le_trans hmin (Nat.le_mul_of_pos_left _ (units_pos hpos)))
  have hquotient : nearestRank c (10 ^ 1074) = rank := by
    have hten : unitsPerOne * 5 ^ 1074 = 10 ^ 1074 := by decide +kernel
    rw [← hten, nearestRank_mul_right _ _ hfive, nearestRank_units hpos]
  have hpower : (-(-1074 : Int)).toNat = 1074 := rfl
  change ofScaled false c (-1074) = _
  unfold ofScaled
  rw [if_neg hc]
  simp only [Int.ofNat_eq_natCast]
  rw [if_neg (by omega), if_neg (by omega), if_neg (by decide), hpower, ofQuotient, hquotient, ofRank,
    dif_pos hrank]

/-- The digits that are taken on a grid read back. -/
theorem ofScaled_nearestReading
    {rank c : Nat} {e : Int}
    (hrank : rank < finiteRanks)
    (h : nearestReading? rank e = some c) :
    ofScaled false c e = .finite false ⟨rank, hrank⟩ := by
  have hreads {near : Nat} (hback : readsBack rank near e = true) :
      ofScaled false near e = .finite false ⟨rank, hrank⟩ := by
    simpa [readsBack, ofRank, hrank] using hback
  unfold nearestReading? at h
  simp only at h
  split at h
  · rename_i hback
    cases h
    exact hreads hback
  · simp only [Option.ite_none_right_eq_some, Option.some.injEq] at h
    obtain ⟨hback, rfl⟩ := h
    exact hreads hback

theorem ofScaled_firstReading
    {rank c : Nat} {e : Int}
    (hrank : rank < finiteRanks) :
    ∀ {start : Int} (fuel : Nat), firstReading? rank start fuel = some (c, e) →
      ofScaled false c e = .finite false ⟨rank, hrank⟩
  | _, 0, h => by cases h
  | start, fuel + 1, h => by
    unfold firstReading? at h
    split at h
    · rename_i near hnear
      cases h
      exact ofScaled_nearestReading hrank hnear
    · exact ofScaled_firstReading hrank fuel h

/-- The shortest digits of a number read back as the number. -/
theorem ofScaled_shortest
    {rank : Nat}
    (hrank : rank < finiteRanks)
    (hpos : 0 < rank) :
    ofScaled false (shortest rank).1 (shortest rank).2 = .finite false ⟨rank, hrank⟩ := by
  unfold shortest
  cases hfirst : firstReading? rank (leadingExponent (units rank) unitsPerOne) 17 with
  | none => exact ofScaled_exactExpansion hrank hpos
  | some r => exact ofScaled_firstReading hrank 17 hfirst

/-- The shortest digits of a positive number are not zero. -/
theorem shortest_ne_zero
    {rank : Nat}
    (hrank : rank < finiteRanks)
    (hpos : 0 < rank) :
    (shortest rank).1 ≠ 0 := by
  intro hzero
  have hread := ofScaled_shortest hrank hpos
  rw [hzero] at hread
  simp only [ofScaled, if_true, zero, finite.injEq, Fin.mk.injEq, true_and] at hread
  omega

theorem dropTrailingZeros_spec :
    ∀ (bound n : Nat), (dropTrailingZeros n bound).1 * 10 ^ (dropTrailingZeros n bound).2 = n
  | 0, n => by simp [dropTrailingZeros]
  | bound + 1, n => by
    unfold dropTrailingZeros
    split
    · rename_i hzero
      have ih := dropTrailingZeros_spec bound (n / 10)
      simp only [Nat.pow_succ]
      rw [← Nat.mul_assoc, ih]
      omega
    · simp

/-- That a numeral has no needless leading zero and does not look like an integer. -/
structure IsPlain (n : Numeral) : Prop where
  whole_eq_of_zero : n.whole.head? = some '0' → n.whole = ['0']
  isFraction : n.places ≠ [] ∨ n.power ≠ []

theorem readPower?_exponentText
    (e : Int) :
    readPower? (exponentText e) = some e := by
  have hne : paddedDigits 10 2 e.natAbs ≠ [] := by simp [paddedDigits]
  exact readInt?_sign hne (fun _ => isDigit_of_mem_paddedDigits) (digitsValue_paddedDigits 2 _)

/-- That a numeral is plain and stands for the number of a row of digits times a power of ten. -/
structure Spells (n : Numeral) (digits : List Char) (e : Int) : Prop where
  isPlain : IsPlain n
  exists_zeros : ∃ j : Nat, n.coefficient = digitsValue digits * 10 ^ j ∧ n.exponent = e - j

section Layouts

variable {digits : List Char} (hne : digits ≠ []) (hds : ∀ d ∈ digits, d.isDigit = true)
  (hhead : digits.head? ≠ some '0')
include hds hhead

/-- A point after the first digit, and a power of ten. -/
theorem exists_scientific
    {d : Char} {ds : List Char}
    (hcons : digits = d :: ds)
    (e : Int) :
    ∃ n : Numeral, Spells n digits e ∧
      n.text = d :: pointed ds ++ exponentText (e + digits.length - 1) := by
  subst hcons
  let leading := e + ((d :: ds).length : Int) - 1
  refine ⟨Numeral.scientific d ds _ leading hds (readPower?_exponentText leading), ⟨⟨?_, .inr ?_⟩,
    0, ?_, ?_⟩, ?_⟩
  · intro hzero
    exact absurd hzero hhead
  · simp [Numeral.scientific, exponentText]
  · simp [Numeral.coefficient, Numeral.scientific]
  · simp only [Numeral.exponent, Numeral.scientific, leading, List.length_cons]
    omega
  · simp [Numeral.text, Numeral.scientific, leading]

include hne

/-- Zeros up to the point, and one place after it. -/
theorem exists_whole
    {e : Int}
    (he : 0 ≤ e) :
    ∃ n : Numeral, Spells n digits e ∧
      n.text = digits ++ List.replicate e.toNat '0' ++ ['.', '0'] := by
  let zeros := List.replicate e.toNat '0'
  refine ⟨⟨digits ++ zeros, ['0'], [], 0, by simp [hne], ?_, by simp, rfl⟩, ⟨⟨?_, .inl ?_⟩,
    e.toNat + 1, ?_, ?_⟩, ?_⟩
  · intro d hd
    rcases List.mem_append.mp hd with hdigit | hzero
    · exact hds d hdigit
    · exact isDigit_of_mem_zeros hzero
  · intro hzero
    rw [List.head?_append] at hzero
    cases hfirst : digits.head? with
    | none => exact absurd (List.head?_eq_none_iff.mp hfirst) hne
    | some d =>
      rw [hfirst] at hzero hhead
      exact absurd hzero hhead
  · simp
  · have hzeros : zeros ++ ['0'] = List.replicate (e.toNat + 1) '0' := List.replicate_succ'.symm
    rw [Numeral.coefficient, List.append_assoc, hzeros, digitsValue_append, digitsValue_zeros,
      List.length_replicate, Nat.add_zero, Nat.mul_comm]
  · simp only [Numeral.exponent, List.length_singleton]
    omega
  · simp [Numeral.text, pointed, zeros]

/-- A point among the digits or before them. -/
theorem exists_positional
    {e : Int}
    (he : e < 0) :
    ∃ n : Numeral, Spells n digits e ∧
      n.text = if e + digits.length ≤ 0 then
          '0' :: '.' :: List.replicate (-(e + digits.length)).toNat '0' ++ digits
        else digits.take (e + digits.length).toNat ++ '.' :: digits.drop (e + digits.length).toNat := by
  have hpoint : e + (digits.length : Int) < digits.length := by omega
  refine ⟨Numeral.positional digits (e + (digits.length : Int)) hne hds,
    ⟨⟨Numeral.whole_positional hne hds hhead,
      .inl (Numeral.places_positional_ne_nil hne hds hpoint)⟩, 0, ?_, ?_⟩,
    Numeral.text_positional hne hds hpoint⟩
  · rw [Numeral.coefficient_positional hne hds, Nat.pow_zero, Nat.mul_one]
  · rw [Numeral.exponent_positional hne hds hpoint]
    omega

end Layouts

/-- The layout of a number is a numeral of its digits without the zeros at their end. -/
theorem exists_spells_layout
    {c : Nat}
    (hpos : 0 < (dropTrailingZeros c 400).1)
    (e : Int) :
    ∃ n : Numeral, n.text = layout c e ∧
      Spells n (Nat.toDigits 10 (dropTrailingZeros c 400).1) (e + (dropTrailingZeros c 400).2) := by
  have hne : Nat.toDigits 10 (dropTrailingZeros c 400).1 ≠ [] := Nat.toDigits_ne_nil
  have hds : ∀ d ∈ Nat.toDigits 10 (dropTrailingZeros c 400).1, d.isDigit = true :=
    fun _ => isDigit_of_mem_toDigits
  have hhead := head?_toDigits_ne_zero hpos
  unfold layout
  simp only
  generalize Nat.toDigits 10 (dropTrailingZeros c 400).1 = digits at hne hds hhead ⊢
  generalize e + ((dropTrailingZeros c 400).2 : Int) = e
  split
  · cases digits with
    | nil => exact absurd rfl hne
    | cons d ds =>
      obtain ⟨n, hspells, htext⟩ := exists_scientific hds hhead rfl e
      refine ⟨n, ?_, hspells⟩
      rw [htext]
      cases ds <;> simp [pointed]
  · by_cases hinteger : 0 ≤ e
    · obtain ⟨n, hspells, htext⟩ := exists_whole hne hds hhead hinteger
      have hlength : 0 < digits.length := List.length_pos_iff.mpr hne
      exact ⟨n, by rw [htext, if_neg (by omega), if_pos hinteger], hspells⟩
    · obtain ⟨n, hspells, htext⟩ := exists_positional hne hds hhead (by omega : e < 0)
      exact ⟨n, by rw [htext, if_neg hinteger], hspells⟩

/-- The layout of digits is a numeral that stands for the same value. -/
theorem exists_numeral_layout
    {c : Nat}
    (hc : c ≠ 0)
    (e : Int) :
    ∃ n : Numeral, n.text = layout c e ∧ IsPlain n ∧
      ∀ negative, ofScaled negative n.coefficient n.exponent = ofScaled negative c e := by
  have hdropped := dropTrailingZeros_spec 400 c
  have hpos : 0 < (dropTrailingZeros c 400).1 := by
    refine Nat.pos_of_ne_zero fun hzero => hc ?_
    rw [← hdropped, hzero, Nat.zero_mul]
  obtain ⟨n, htext, hplain, j, hcoefficient, hexponent⟩ := exists_spells_layout hpos e
  refine ⟨n, htext, hplain, fun negative => ?_⟩
  have hmoved := ofScaled_mul_pow negative (dropTrailingZeros c 400).1 (dropTrailingZeros c 400).2
    (e + (dropTrailingZeros c 400).2)
  rw [hdropped, Int.add_sub_cancel] at hmoved
  rw [hcoefficient, hexponent, digitsValue_toDigits, ofScaled_mul_pow, hmoved]

/-- A finite number is written as a numeral that reads back as the number, with either sign. -/
theorem exists_numeral
    (rank : Fin finiteRanks) :
    ∃ n : Numeral, n.text = magnitudeText rank ∧ IsPlain n ∧
      ∀ negative, ofScaled negative n.coefficient n.exponent = .finite negative rank := by
  by_cases hzero : rank.val = 0
  · obtain ⟨rank, hrank⟩ := rank
    simp only at hzero
    subst hzero
    refine ⟨⟨['0'], ['0'], [], 0, by simp, by simp, by simp, rfl⟩, rfl, ⟨fun _ => rfl, .inl ?_⟩,
      fun _ => rfl⟩
    simp
  · have hpos : 0 < rank.val := Nat.pos_of_ne_zero hzero
    obtain ⟨n, htext, hplain, hvalue⟩ :=
      exists_numeral_layout (shortest_ne_zero rank.isLt hpos) (shortest rank).2
    refine ⟨n, ?_, hplain, fun negative => ?_⟩
    · rw [htext, magnitudeText, if_neg hzero]
    · rw [hvalue negative]
      exact ofScaled_of_eq (ofScaled_shortest rank.isLt hpos) negative

end Binary64
end RollupAudit
