import RollupAudit.Text.Scientific
import RollupAudit.Text.Numeral

/-!
# Digits

Rows of ASCII digits: those of a number in base ten, with or without zeros in front, and the number
that a row denotes.

**Results.**
* `digitsValue_append`, `digitsValue_zeros`: the number of a row from those of its parts.
* `head?_toDigits_ne_zero`: a positive number is written without a leading zero.
* `takeWhile_digits`, `dropWhile_digits`: a row of digits ends where something else starts.
* `paddedDigits_succ`, `length_paddedDigits`, `digitsValue_paddedDigits`: numbers of a fixed width.
-/

namespace RollupAudit
namespace Text

/-- A text that does not start with a digit. -/
def NoDigitHead (cs : List Char) : Prop := ∀ c ∈ cs.head?, c.isDigit = false

theorem noDigitHead_nil : NoDigitHead [] := by
  intro c hc
  cases hc

theorem noDigitHead_cons
    {c : Char} {cs : List Char}
    (h : c.isDigit = false) :
    NoDigitHead (c :: cs) := by
  intro c' hc'
  cases hc'
  exact h

/-- The digits at the start of a text are the row that stands before something else. -/
theorem takeWhile_digits
    {ds rest : List Char}
    (hds : ∀ d ∈ ds, d.isDigit = true)
    (hrest : NoDigitHead rest) :
    (ds ++ rest).takeWhile Char.isDigit = ds := by
  rw [List.takeWhile_append_of_pos hds]
  cases rest with
  | nil => simp
  | cons c rest =>
    have hc : c.isDigit = false := hrest c rfl
    simp [hc]

/-- What follows the digits at the start of a text is what stands after the row. -/
theorem dropWhile_digits
    {ds rest : List Char}
    (hds : ∀ d ∈ ds, d.isDigit = true)
    (hrest : NoDigitHead rest) :
    (ds ++ rest).dropWhile Char.isDigit = rest := by
  rw [List.dropWhile_append_of_pos hds]
  cases rest with
  | nil => rfl
  | cons c rest =>
    have hc : c.isDigit = false := hrest c rfl
    simp [hc]

theorem isDigit_of_mem_toDigits
    {n : Nat} {c : Char}
    (h : c ∈ Nat.toDigits 10 n) :
    c.isDigit = true :=
  Nat.isDigit_of_mem_toDigits (by decide) (by decide) h

/-- The digits of a number in a base stand for numbers below the base. -/
theorem exists_digit_of_mem_toDigits
    {base n : Nat}
    (hbase : 1 < base)
    {c : Char}
    (h : c ∈ Nat.toDigits base n) :
    ∃ d < base, c = Nat.digitChar d := by
  induction n using Nat.strongRecOn with
  | ind n ih =>
    by_cases hn : n < base
    · rw [Nat.toDigits_of_lt_base hn] at h
      exact ⟨n, hn, List.mem_singleton.mp h⟩
    · rw [Nat.toDigits_of_base_le hbase (Nat.le_of_not_lt hn)] at h
      rcases List.mem_append.mp h with hfront | hlast
      · exact ih (n / base) (Nat.div_lt_self (by omega) hbase) hfront
      · exact ⟨n % base, Nat.mod_lt _ (by omega), List.mem_singleton.mp hlast⟩

/-- A positive number is written without a leading zero. -/
theorem head?_toDigits_ne_zero
    {n : Nat}
    (h : 0 < n) :
    (Nat.toDigits 10 n).head? ≠ some '0' := by
  induction n using Nat.strongRecOn with
  | ind n ih =>
    by_cases hn : n < 10
    · have hall : ∀ m < 10, 0 < m → [Nat.digitChar m].head? ≠ some '0' := by decide
      rw [Nat.toDigits_of_lt_base hn]
      exact hall n hn h
    · have ih := ih (n / 10) (by omega) (by omega)
      rw [Nat.toDigits_of_base_le (by decide) (by omega), List.head?_append]
      cases htenth : (Nat.toDigits 10 (n / 10)).head? with
      | none => exact absurd (List.head?_eq_none_iff.mp htenth) Nat.toDigits_ne_nil
      | some c =>
        rw [htenth] at ih
        exact ih

/-- The number of a row, moved left by a further row, and the number of that row. -/
theorem digitsValue_append
    (cs ds : List Char) :
    digitsValue (cs ++ ds) = 10 ^ ds.length * digitsValue cs + digitsValue ds := by
  unfold digitsValue
  rw [Nat.ofDigitChars_append]
  exact Nat.ofDigitChars_eq_ofDigitChars_zero

/-- A row of zeros denotes zero. -/
theorem digitsValue_zeros
    (n : Nat) :
    digitsValue (List.replicate n '0') = 0 := by
  simp [digitsValue]

theorem digitsValue_zeros_append
    (n : Nat)
    (ds : List Char) :
    digitsValue (List.replicate n '0' ++ ds) = digitsValue ds := by
  rw [digitsValue_append, digitsValue_zeros, Nat.mul_zero, Nat.zero_add]

theorem isDigit_of_mem_zeros
    {n : Nat} {c : Char}
    (h : c ∈ List.replicate n '0') :
    c.isDigit = true := by
  rw [List.eq_of_mem_replicate h]
  rfl

theorem paddedDigits_one
    {base n : Nat}
    (h : n < base) :
    paddedDigits base 1 n = [Nat.digitChar n] := by
  simp [paddedDigits, Nat.toDigits_of_lt_base h]

/-- The last digit of a fixed width, and the digits before it. -/
theorem paddedDigits_succ
    {base width : Nat}
    (hbase : 1 < base)
    (hwidth : 0 < width)
    (n : Nat) :
    paddedDigits base (width + 1) n =
      paddedDigits base width (n / base) ++ [Nat.digitChar (n % base)] := by
  by_cases hn : n < base
  · obtain ⟨w, rfl⟩ : ∃ w, width = w + 1 := ⟨width - 1, by omega⟩
    rw [Nat.div_eq_of_lt hn, Nat.mod_eq_of_lt hn]
    simp [paddedDigits, Nat.toDigits_of_lt_base hn, List.replicate_succ']
  · have hdigits := Nat.toDigits_of_base_le hbase (Nat.le_of_not_lt hn)
    simp [paddedDigits, hdigits]

/-- A number that fits a width is written with as many digits. -/
theorem length_paddedDigits
    {base width n : Nat}
    (hbase : 1 < base)
    (hwidth : 0 < width)
    (h : n < base ^ width) :
    (paddedDigits base width n).length = width := by
  have hlength := (Nat.length_toDigits_le_iff hbase hwidth).mpr h
  simp only [paddedDigits, List.length_append, List.length_replicate]
  omega

theorem isDigit_of_mem_paddedDigits
    {width n : Nat} {c : Char}
    (h : c ∈ paddedDigits 10 width n) :
    c.isDigit = true := by
  rcases List.mem_append.mp h with hzero | hdigit
  · exact isDigit_of_mem_zeros hzero
  · exact isDigit_of_mem_toDigits hdigit

/-- A fixed width does not change the number that is written. -/
theorem digitsValue_paddedDigits
    (width n : Nat) :
    digitsValue (paddedDigits 10 width n) = n := by
  unfold paddedDigits
  rw [digitsValue_zeros_append, digitsValue_toDigits]

theorem readDigits?_eq
    {ds : List Char}
    (hne : ds ≠ [])
    (hds : ∀ d ∈ ds, d.isDigit = true) :
    readDigits? ds = some (digitsValue ds) := by
  have hall : ds.all Char.isDigit = true := List.all_eq_true.mpr hds
  have hempty : ds.isEmpty = false := by simpa using hne
  simp [readDigits?, hall, hempty]

end Text
end RollupAudit
