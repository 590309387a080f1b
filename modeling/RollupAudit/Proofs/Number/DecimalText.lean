import RollupAudit.Number.DecimalText
import RollupAudit.Proofs.Text.Scientific
import RollupAudit.Proofs.Text.Trim
import RollupAudit.Text.CodePoint

/-!
# Texts of decimal numbers

The text of a decimal number is a numeral with the digits and the exponent of the number, whichever
of the layouts it has, so that it reads back as the same number: sign, digits and exponent.

**Results.**
* `Decimal.exists_numeral`: the magnitude is written as a numeral of the same digits and exponent.
* `Decimal.text_injective`: different numbers have different texts.
* `ExtendedDecimal.read?_text`: a number in range reads back from its text.
-/

namespace RollupAudit
namespace Decimal

open Text

/-- The power after the digits tells the exponent of the first digit; none stands for zero. -/
theorem readPower?_power
    (leading : Int) :
    readPower? (if leading = 0 then [] else powerText leading) = some leading := by
  split
  · rename_i hzero
    rw [hzero]
    rfl
  · have hvalue : digitsValue (Nat.toDigits 10 leading.natAbs) = leading.natAbs :=
      digitsValue_toDigits _
    exact readInt?_sign Nat.toDigits_ne_nil (fun _ => isDigit_of_mem_toDigits) hvalue

/-- The magnitude of a number is written as a numeral with its digits and its exponent. -/
theorem exists_numeral
    (d : Decimal) :
    ∃ n : Numeral, n.text = d.magnitudeText ∧ n.coefficient = d.coefficient ∧
      n.exponent = d.exponent := by
  have hne : Nat.toDigits 10 d.coefficient ≠ [] := Nat.toDigits_ne_nil
  have hds : ∀ c ∈ Nat.toDigits 10 d.coefficient, c.isDigit = true :=
    fun _ => isDigit_of_mem_toDigits
  have hvalue : digitsValue (Nat.toDigits 10 d.coefficient) = d.coefficient :=
    digitsValue_toDigits _
  have hlength : 0 < (Nat.toDigits 10 d.coefficient).length := List.length_pos_iff.mpr hne
  have hadjusted : d.adjusted = d.exponent + ((Nat.toDigits 10 d.coefficient).length : Int) - 1 := rfl
  unfold magnitudeText
  by_cases hlayout : d.exponent ≤ 0 ∧ leastPositional ≤ d.adjusted
  · simp only [if_pos hlayout]
    by_cases hzero : d.exponent = 0
    · -- All digits stand before the point, which is left out.
      refine ⟨⟨Nat.toDigits 10 d.coefficient, [], [], 0, hne, hds, by simp, rfl⟩, ?_, ?_, ?_⟩
      · simp [hzero, Numeral.text, pointed]
      · simp [Numeral.coefficient]
      · simp [hzero, Numeral.exponent]
    · have hpoint : d.adjusted + 1 < (Nat.toDigits 10 d.coefficient).length := by omega
      refine ⟨Numeral.positional _ (d.adjusted + 1) hne hds, ?_, ?_, ?_⟩
      · rw [Numeral.text_positional hne hds hpoint, if_neg hzero]
      · rw [Numeral.coefficient_positional hne hds, hvalue]
      · rw [Numeral.exponent_positional hne hds hpoint]
        omega
  · simp only [if_neg hlayout]
    generalize d.adjusted = leading at hadjusted
    cases hdigits : Nat.toDigits 10 d.coefficient with
    | nil => exact absurd hdigits hne
    | cons c cs =>
      rw [hdigits] at hds hvalue hadjusted
      refine ⟨Numeral.scientific c cs _ _ hds (readPower?_power leading), ?_, ?_, ?_⟩
      · cases cs <;> simp [Numeral.text, Numeral.scientific, pointed]
      · simpa [Numeral.coefficient, Numeral.scientific] using hvalue
      · rw [List.length_cons] at hadjusted
        simp only [Numeral.exponent, Numeral.scientific]
        omega

/-- A text that starts with a digit has no sign. -/
theorem readSign_of_isDigit
    {c : Char} {cs : List Char}
    (h : c.isDigit = true) :
    readSign (c :: cs) = (false, c :: cs) := by
  unfold readSign
  split
  · rename_i heq
    cases heq
    cases h
  · rename_i heq
    cases heq
    cases h
  · rfl

/-- The sign of a number stands before the text of its magnitude. -/
theorem readSign_text
    (d : Decimal) :
    readSign d.text.toList = (d.negative, d.magnitudeText) := by
  obtain ⟨n, htext, -, -⟩ := d.exists_numeral
  rw [Decimal.text, String.toList_ofList, ← htext]
  cases d.negative with
  | false =>
    obtain ⟨c, rest, hcons, hc⟩ := n.exists_cons
    rw [hcons]
    exact readSign_of_isDigit hc
  | true => rfl

/-- Different numbers have different texts, also where they have one value. -/
theorem text_injective
    {x y : Decimal}
    (h : x.text = y.text) :
    x = y := by
  obtain ⟨n, hntext, hncoefficient, hnexponent⟩ := x.exists_numeral
  obtain ⟨m, hmtext, hmcoefficient, hmexponent⟩ := y.exists_numeral
  have hparts := readSign_text x
  rw [h, readSign_text y, Prod.mk.injEq, ← hntext, ← hmtext] at hparts
  have hread := n.readScientific?_text
  rw [← hparts.2, m.readScientific?_text, Option.some.injEq, Scientific.mk.injEq] at hread
  have hcoefficient : x.coefficient = y.coefficient := by
    rw [← hncoefficient, ← hmcoefficient, Numeral.coefficient, Numeral.coefficient, hread.1]
  have hexponent : x.exponent = y.exponent := by rw [← hnexponent, ← hmexponent, hread.2]
  have hnegative : x.negative = y.negative := hparts.1.symm
  cases x
  cases y
  cases hnegative
  cases hcoefficient
  cases hexponent
  rfl

/-- The text of a number is in ASCII. -/
theorem isWhole_text (d : Decimal) : isWhole d.text = true := by
  obtain ⟨n, htext, -, -⟩ := d.exists_numeral
  have hmagnitude : ∀ c ∈ d.magnitudeText, c.toNat < 0x80 := fun c hc =>
    toNat_lt_of_isNumeric (Numeral.isNumeric_of_mem_text (htext ▸ hc))
  refine isWhole_of_lt ?_
  rw [Decimal.text, String.toList_ofList]
  cases d.negative with
  | false => exact hmagnitude
  | true => exact List.forall_mem_cons.mpr ⟨by decide, hmagnitude⟩

end Decimal

namespace ExtendedDecimal

open Text

/-- The characters that may stand in a numeral are neither blank nor underscores, and as digits they
are those of the ASCII range. -/
theorem isNumeric_spec
    {c : Char}
    (h : isNumeric c = true) :
    isBlank c = false ∧ c ≠ '_' ∧ (asciiDigit? c).getD c = c := by
  have hall : ∀ n < 128, isNumeric (Char.ofNat n) = true →
      isBlank (Char.ofNat n) = false ∧ Char.ofNat n ≠ '_' ∧
        (asciiDigit? (Char.ofNat n)).getD (Char.ofNat n) = Char.ofNat n := by
    decide +kernel
  have hc := hall c.toNat (toNat_lt_of_isNumeric h)
  rw [Char.ofNat_toNat] at hc
  exact hc h

theorem asciiDigits_eq_self : ∀ {cs : List Char}, (∀ c ∈ cs, isNumeric c = true) →
    asciiDigits cs = cs
  | [], _ => rfl
  | c :: cs, h => by
    have hc := (isNumeric_spec (h c List.mem_cons_self)).2.2
    have ih := asciiDigits_eq_self fun d hd => h d (List.mem_cons_of_mem c hd)
    unfold asciiDigits at ih ⊢
    rw [List.map_cons, hc, ih]

/-- A digit is neither a capital nor a letter. -/
theorem toLower_of_isDigit
    {c : Char}
    (h : c.isDigit = true) :
    c.toLower = c ∧ c ≠ 'i' ∧ c ≠ 'n' ∧ c ≠ 's' := by
  have hall : ∀ n < 128, (Char.ofNat n).isDigit = true →
      (Char.ofNat n).toLower = Char.ofNat n ∧ Char.ofNat n ≠ 'i' ∧ Char.ofNat n ≠ 'n' ∧
        Char.ofNat n ≠ 's' := by
    decide +kernel
  have hc := hall c.toNat (toNat_lt_of_isNumeric (isNumeric_of_isDigit h))
  rw [Char.ofNat_toNat] at hc
  exact hc h

/-- A text that starts with a digit names neither an infinity nor what is not a number. -/
theorem asciiLower_text
    (n : Numeral) :
    ∃ c rest, asciiLower n.text = c :: rest ∧ c ≠ 'i' ∧ c ≠ 'n' ∧ c ≠ 's' := by
  obtain ⟨c, rest, hcons, hc⟩ := n.exists_cons
  obtain ⟨hlower, hletters⟩ := toLower_of_isDigit hc
  refine ⟨c, asciiLower rest, ?_, hletters⟩
  rw [hcons, asciiLower, List.map_cons, hlower]
  rfl

/-- A number in range reads back from its text, with its sign, its digits and its exponent. -/
theorem read?_text
    {d : Decimal}
    (h : d.inRange = true) :
    read? d.text = some (.finite d) := by
  obtain ⟨n, htext, hcoefficient, hexponent⟩ := d.exists_numeral
  have htoList : d.text.toList = if d.negative then '-' :: n.text else n.text := by
    rw [Decimal.text, ← htext, String.toList_ofList]
  have hnumeric : ∀ c ∈ d.text.toList, isNumeric c = true := by
    intro c hc
    rw [htoList] at hc
    split at hc
    · rcases List.mem_cons.mp hc with rfl | hmem
      · rfl
      · exact n.isNumeric_of_mem_text hmem
    · exact n.isNumeric_of_mem_text hc
  have htrim : trimBy isBlank d.text.toList = d.text.toList :=
    trimBy_eq_self (isTrimmed_of_forall fun c hc => (isNumeric_spec (hnumeric c hc)).1)
  have hfilter : d.text.toList.filter (· ≠ '_') = d.text.toList := by
    rw [List.filter_eq_self]
    intro c hc
    simpa using (isNumeric_spec (hnumeric c hc)).2.1
  unfold read?
  simp only [htrim, hfilter, asciiDigits_eq_self hnumeric, Decimal.readSign_text, ← htext]
  obtain ⟨c, rest, hbody, hi, hn, hs⟩ := asciiLower_text n
  rw [hbody, n.readScientific?_text]
  split
  · rename_i heq
    exact absurd (List.cons.inj heq).1 hi
  · rename_i heq
    exact absurd (List.cons.inj heq).1 hi
  · rename_i heq
    exact absurd (List.cons.inj heq).1 hn
  · rename_i heq
    exact absurd (List.cons.inj heq).1 hs
  · change ofDecimal? ⟨d.negative, n.coefficient, n.exponent⟩ = some (.finite d)
    rw [hcoefficient, hexponent, ofDecimal?, if_pos h]

end ExtendedDecimal
end RollupAudit
