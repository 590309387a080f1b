import RollupAudit.Proofs.Text.Digits

/-!
# Written numerals

A numeral in its parts: digits, places after a point, and a power of ten. Whatever the parts, the
text that they make up reads back as the coefficient and the exponent that they stand for.

**Results.**
* `Numeral.readScientific?_text`: the text of a numeral is read as its coefficient and exponent.
* `Numeral.scientific`, `Numeral.positional`: the numerals with a point after the first digit, and
  with a point at any place.
-/

namespace RollupAudit
namespace Text

/-- Places after a point, if there are any. -/
def pointed (places : List Char) : List Char :=
  if places = [] then [] else '.' :: places

/-- The parts of a numeral without a sign. -/
structure Numeral where
  whole : List Char
  places : List Char
  power : List Char
  /-- The power of ten that `power` tells. -/
  raised : Int
  whole_ne_nil : whole ≠ []
  isDigit_whole : ∀ d ∈ whole, d.isDigit = true
  isDigit_places : ∀ d ∈ places, d.isDigit = true
  readPower?_power : readPower? power = some raised

/-- A text that is read as a power of ten starts with neither a digit nor a point. -/
theorem head?_of_readPower?
    {power : List Char} {e : Int}
    (h : readPower? power = some e) :
    NoDigitHead power ∧ power.head? ≠ some '.' := by
  unfold readPower? at h
  split at h
  · exact ⟨noDigitHead_nil, by simp⟩
  · exact ⟨noDigitHead_cons rfl, by simp⟩
  · exact ⟨noDigitHead_cons rfl, by simp⟩
  · cases h

/-- A character that may stand in a numeral. -/
def isNumeric (c : Char) : Bool :=
  c.isDigit || c == '.' || c == 'e' || c == 'E' || c == '+' || c == '-'

theorem isNumeric_of_isDigit
    {c : Char}
    (h : c.isDigit = true) :
    isNumeric c = true := by
  simp [isNumeric, h]

/-- The characters that may stand in a numeral are in the ASCII range. -/
theorem toNat_lt_of_isNumeric
    {c : Char}
    (h : isNumeric c = true) :
    c.toNat < 128 := by
  simp only [isNumeric, Bool.or_eq_true, beq_iff_eq, Char.isDigit_iff_toNat] at h
  rcases h with ((((hdigit | rfl) | rfl) | rfl) | rfl) | rfl
  · have := hdigit.2
    simp at this
    omega
  all_goals decide

/-- What is read as a row of digits is a nonempty row of digits. -/
theorem isDigit_of_readDigits?
    {cs : List Char} {n : Nat}
    (h : readDigits? cs = some n) :
    cs ≠ [] ∧ ∀ c ∈ cs, c.isDigit = true := by
  unfold readDigits? at h
  split at h
  · rename_i hdigits
    simpa using hdigits
  · cases h

/-- What is read as an integer is a row of digits after a sign or none. -/
theorem exists_of_readInt?
    {cs : List Char} {e : Int}
    (h : readInt? cs = some e) :
    ∃ sign ds, cs = sign ++ ds ∧ (sign = [] ∨ sign = ['-'] ∨ sign = ['+']) ∧ ds ≠ [] ∧
      ∀ d ∈ ds, d.isDigit = true := by
  obtain ⟨n, hn, -⟩ := Option.map_eq_some_iff.mp h
  have hdigits := isDigit_of_readDigits? hn
  split at hdigits
  · rename_i ds
    exact ⟨['-'], ds, rfl, .inr (.inl rfl), hdigits⟩
  · rename_i ds
    exact ⟨['+'], ds, rfl, .inr (.inr rfl), hdigits⟩
  · exact ⟨[], cs, rfl, .inl rfl, hdigits⟩

/-- What is read as an integer consists of a sign and digits. -/
theorem isNumeric_of_readInt?
    {cs : List Char} {e : Int}
    (h : readInt? cs = some e)
    {c : Char}
    (hc : c ∈ cs) :
    isNumeric c = true := by
  obtain ⟨sign, ds, rfl, hsign, -, hds⟩ := exists_of_readInt? h
  rcases List.mem_append.mp hc with hmem | hmem
  · rcases hsign with rfl | rfl | rfl
    · cases hmem
    · rw [List.mem_singleton.mp hmem]
      rfl
    · rw [List.mem_singleton.mp hmem]
      rfl
  · exact isNumeric_of_isDigit (hds c hmem)

/-- What is read as a power of ten consists of numeric characters. -/
theorem isNumeric_of_mem_power
    {power : List Char} {e : Int}
    (h : readPower? power = some e)
    {c : Char}
    (hc : c ∈ power) :
    isNumeric c = true := by
  unfold readPower? at h
  split at h
  · cases hc
  · rcases List.mem_cons.mp hc with rfl | hmem
    · rfl
    · exact isNumeric_of_readInt? h hmem
  · rcases List.mem_cons.mp hc with rfl | hmem
    · rfl
    · exact isNumeric_of_readInt? h hmem
  · cases h

/-- An integer is read from its sign and its digits. -/
theorem readInt?_sign
    {e : Int} {ds : List Char}
    (hne : ds ≠ [])
    (hds : ∀ d ∈ ds, d.isDigit = true)
    (hvalue : digitsValue ds = e.natAbs) :
    readInt? ((if e < 0 then '-' else '+') :: ds) = some e := by
  by_cases he : e < 0
  · simp only [readInt?, if_pos he, readSign, readDigits?_eq hne hds, hvalue, Option.map_some,
      if_true, Option.some.injEq, Int.ofNat_eq_natCast]
    omega
  · simp only [readInt?, if_neg he, readSign, readDigits?_eq hne hds, hvalue, Option.map_some,
      Bool.false_eq_true, if_false, Option.some.injEq, Int.ofNat_eq_natCast]
    omega

namespace Numeral

/-- The text of a numeral. -/
def text (n : Numeral) : List Char := n.whole ++ (pointed n.places ++ n.power)

/-- The integer that the digits of a numeral spell. -/
def coefficient (n : Numeral) : Nat := digitsValue (n.whole ++ n.places)

/-- The power of ten that the last digit of a numeral counts. -/
def exponent (n : Numeral) : Int := n.raised - n.places.length

/-- No digit follows the whole part of a numeral. -/
theorem noDigitHead_rest
    (n : Numeral) :
    NoDigitHead (pointed n.places ++ n.power) := by
  unfold pointed
  split
  · exact (head?_of_readPower? n.readPower?_power).1
  · exact noDigitHead_cons rfl

/-- The text of a numeral is read as its digits and its exponent. -/
theorem readScientific?_text
    (n : Numeral) :
    readScientific? n.text = some ⟨n.whole ++ n.places, n.exponent⟩ := by
  have hwhole : n.text.takeWhile Char.isDigit = n.whole :=
    takeWhile_digits n.isDigit_whole n.noDigitHead_rest
  have hrest : n.text.dropWhile Char.isDigit = pointed n.places ++ n.power :=
    dropWhile_digits n.isDigit_whole n.noDigitHead_rest
  obtain ⟨hdigit, hpoint⟩ := head?_of_readPower? n.readPower?_power
  have hempty : n.whole.isEmpty = false := by simpa using n.whole_ne_nil
  unfold readScientific?
  rw [hwhole, hrest]
  by_cases hplaces : n.places = []
  · cases hpower : n.power with
    | nil =>
      have hread := n.readPower?_power
      rw [hpower] at hread
      simp [pointed, hplaces, hempty, hread, exponent]
    | cons c power =>
      have hread := n.readPower?_power
      rw [hpower] at hread hpoint
      have hc : c ≠ '.' := by simpa using hpoint
      simp [pointed, hplaces, hempty, hread, exponent, hc]
  · have htake := takeWhile_digits n.isDigit_places hdigit
    have hdrop := dropWhile_digits n.isDigit_places hdigit
    simp [pointed, hplaces, hempty, htake, hdrop, n.readPower?_power, exponent]

/-- The text of a numeral starts with a digit. -/
theorem exists_cons
    (n : Numeral) :
    ∃ c cs, n.text = c :: cs ∧ c.isDigit = true := by
  obtain ⟨c, whole, hwhole⟩ := List.exists_cons_of_ne_nil n.whole_ne_nil
  refine ⟨c, whole ++ (pointed n.places ++ n.power), ?_, ?_⟩
  · rw [text, hwhole]
    rfl
  · exact n.isDigit_whole c (by simp [hwhole])

/-- A numeral consists of numeric characters. -/
theorem isNumeric_of_mem_text
    {n : Numeral} {c : Char}
    (h : c ∈ n.text) :
    isNumeric c = true := by
  rcases List.mem_append.mp h with hwhole | hrest
  · exact isNumeric_of_isDigit (n.isDigit_whole c hwhole)
  · rcases List.mem_append.mp hrest with hplaces | hpower
    · unfold pointed at hplaces
      split at hplaces
      · cases hplaces
      · rcases List.mem_cons.mp hplaces with rfl | hmem
        · rfl
        · exact isNumeric_of_isDigit (n.isDigit_places c hmem)
    · exact isNumeric_of_mem_power n.readPower?_power hpower

/-- The numeral with a point after its first digit, if further digits follow. -/
def scientific (d : Char) (ds power : List Char) (raised : Int)
    (hdigits : ∀ c ∈ d :: ds, c.isDigit = true) (hpower : readPower? power = some raised) :
    Numeral where
  whole := [d]
  places := ds
  power
  raised
  whole_ne_nil := by simp
  isDigit_whole := by
    intro c hc
    exact hdigits c (by simp_all)
  isDigit_places := by
    intro c hc
    exact hdigits c (by simp_all)
  readPower?_power := hpower

/-- The numeral of digits with a point after a number of them, and with zeros in front if there are
too few. -/
def positional (ds : List Char) (point : Int) (hne : ds ≠ []) (hds : ∀ d ∈ ds, d.isDigit = true) :
    Numeral where
  whole := if point ≤ 0 then ['0'] else ds.take point.toNat
  places := if point ≤ 0 then List.replicate (-point).toNat '0' ++ ds else ds.drop point.toNat
  power := []
  raised := 0
  whole_ne_nil := by
    split
    · simp
    · rw [ne_eq, List.take_eq_nil_iff]
      rintro (hzero | hnil)
      · omega
      · exact hne hnil
  isDigit_whole := by
    intro d hd
    split at hd
    · simp_all
    · exact hds d (List.mem_of_mem_take hd)
  isDigit_places := by
    intro d hd
    split at hd
    · rcases List.mem_append.mp hd with hzero | hdigit
      · exact isDigit_of_mem_zeros hzero
      · exact hds d hdigit
    · exact hds d (List.mem_of_mem_drop hd)
  readPower?_power := rfl

variable {ds : List Char} {point : Int} (hne : ds ≠ []) (hds : ∀ d ∈ ds, d.isDigit = true)

/-- A point among digits or in front of them is followed by places. -/
theorem places_positional_ne_nil
    (hpoint : point < ds.length) :
    (positional ds point hne hds).places ≠ [] := by
  simp only [positional]
  split
  · simp [hne]
  · rw [ne_eq, List.drop_eq_nil_iff]
    omega

/-- Digits without a leading zero have none before a point either, but for a zero that stands alone. -/
theorem whole_positional
    (hhead : ds.head? ≠ some '0')
    (h : (positional ds point hne hds).whole.head? = some '0') :
    (positional ds point hne hds).whole = ['0'] := by
  simp only [positional] at h ⊢
  split at h
  · rename_i hfront
    rw [if_pos hfront]
  · rw [List.head?_take, if_neg (by omega)] at h
    exact absurd h hhead

/-- The text of digits with a point among them or in front of them. -/
theorem text_positional
    (hpoint : point < ds.length) :
    (positional ds point hne hds).text =
      if point ≤ 0 then '0' :: '.' :: List.replicate (-point).toNat '0' ++ ds
      else ds.take point.toNat ++ '.' :: ds.drop point.toNat := by
  unfold text pointed
  rw [if_neg (places_positional_ne_nil hne hds hpoint)]
  simp only [positional]
  split <;> simp

/-- A point does not change what the digits spell. -/
theorem coefficient_positional : (positional ds point hne hds).coefficient = digitsValue ds := by
  simp only [coefficient, positional]
  split
  · have hzeros := digitsValue_zeros_append ((-point).toNat + 1) ds
    rw [List.replicate_succ] at hzeros
    simpa using hzeros
  · rw [List.take_append_drop]

/-- A point tells the exponent. -/
theorem exponent_positional
    (hpoint : point < ds.length) :
    (positional ds point hne hds).exponent = point - ds.length := by
  simp only [exponent, positional]
  split
  · simp only [List.length_append, List.length_replicate]
    omega
  · simp only [List.length_drop]
    omega

end Numeral
end Text
end RollupAudit
