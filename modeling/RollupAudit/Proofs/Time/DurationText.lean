import Mathlib.Algebra.Order.Field.Rat
import Mathlib.Data.List.Forall2
import Mathlib.Tactic.FieldSimp
import Mathlib.Tactic.Linarith
import Mathlib.Tactic.Ring
import RollupAudit.Proofs.Check.Durations
import RollupAudit.Proofs.Text.Scientific
import RollupAudit.Time.Duration

/-!
# Texts of durations

The text of a duration is read back as counted units after an optional minus. The units add up to the
duration exactly, so that different durations have different texts. So have different numbers of
seconds, whether they are written as durations or, beyond the durations, as a plain count.

**Results.**
* `Duration.read?_text`: the units that the text of a duration is read as.
* `read?_secondsText`: the units that the text of a number of seconds is read as.
* `Duration.texts_read_back`: texts tell durations and numbers of seconds apart.
-/

namespace RollupAudit

/-! ## Reading counted units -/

/-- A unit of time, the largest first. -/
inductive TimeUnit
  | day
  | hour
  | minute
  | second
  deriving DecidableEq

namespace TimeUnit

def all : List TimeUnit := [day, hour, minute, second]

def name : TimeUnit → String
  | day => "day"
  | hour => "hour"
  | minute => "minute"
  | second => "second"

def micros : TimeUnit → Nat
  | day => 86400000000
  | hour => 3600000000
  | minute => 60000000
  | second => 1000000

/-- How many of a unit make up the next larger one. -/
def limit? : TimeUnit → Option Nat
  | day => none
  | hour => some 24
  | minute => some 60
  | second => some 60

/-- The unit that a word names, and whether it does so in the singular. -/
def ofWord? (w : List Char) : Option (TimeUnit × Bool) :=
  match String.ofList w with
  | "day" => some (day, true)
  | "days" => some (day, false)
  | "hour" => some (hour, true)
  | "hours" => some (hour, false)
  | "minute" => some (minute, true)
  | "minutes" => some (minute, false)
  | "second" => some (second, true)
  | "seconds" => some (second, false)
  | _ => none

/-- The word for a unit. -/
def word (u : TimeUnit) (isSingular : Bool) : List Char :=
  if isSingular then u.name.toList else u.name.toList ++ ['s']

theorem ofWord?_word (u : TimeUnit) (isSingular : Bool) :
    ofWord? (u.word isSingular) = some (u, isSingular) := by
  cases u <;> cases isSingular <;> rfl

theorem blank_notMem_word (u : TimeUnit) (isSingular : Bool) : ' ' ∉ u.word isSingular := by
  cases u <;> cases isSingular <;> decide

end TimeUnit

/-- A count with a unit, as they stand in a text. -/
structure CountedUnit where
  count : ℚ
  unit : TimeUnit
  /-- Whether the word for the unit is in the singular. -/
  isSingular : Bool

namespace CountedUnit

/-- The microseconds of a counted unit. -/
def micros (c : CountedUnit) : ℚ := c.count * c.unit.micros

/-- The number that a written count stands for. -/
def readCount? (w : List Char) : Option ℚ :=
  (Text.readScientific? w).map fun n => n.coefficient * (10 : ℚ) ^ n.exponent

/-- The counted units that words stand for, two by two. -/
def readWords? : List (List Char) → Option (List CountedUnit)
  | [] => some []
  | [_] => none
  | count :: word :: rest =>
    match readCount? count, TimeUnit.ofWord? word, readWords? rest with
    | some count, some (unit, isSingular), some units => some (⟨count, unit, isSingular⟩ :: units)
    | _, _, _ => none

/-- The counted units that a text stands for, after an optional minus. -/
def read? (s : String) : Option (Bool × List CountedUnit) :=
  match s.toList with
  | '-' :: cs => (readWords? (cs.splitOn ' ')).map (true, ·)
  | cs => (readWords? (cs.splitOn ' ')).map (false, ·)

/-- The microseconds of counted units, after a minus or none. -/
def total (negative : Bool) (units : List CountedUnit) : ℚ :=
  if negative then -(units.map micros).sum else (units.map micros).sum

/-- That a text is a count and the word for a unit. -/
structure IsWritten (s : String) (c : CountedUnit) (count word : List Char) : Prop where
  toList_eq : s.toList = count ++ ' ' :: word
  blank_notMem_count : ' ' ∉ count
  blank_notMem_word : ' ' ∉ word
  readCount?_eq : readCount? count = some c.count
  ofWord?_eq : TimeUnit.ofWord? word = some (c.unit, c.isSingular)

/-- That a text stands for a counted unit. -/
def Writes (s : String) (c : CountedUnit) : Prop := ∃ count word, IsWritten s c count word

/-- A word ends at the first blank. -/
theorem splitOn_append_blank
    {w : List Char}
    (h : ' ' ∉ w)
    (rest : List Char) :
    (w ++ ' ' :: rest).splitOn ' ' = w :: rest.splitOn ' ' := by
  have hsplit := List.splitOnP_append_cons (p := (· == ' ')) w rest (beq_self_eq_true ' ')
  exact hsplit.trans (congrArg (· ++ rest.splitOn ' ') (List.splitOn_eq_singleton h))

/-- The text of a first counted unit splits into its count and its word. -/
theorem IsWritten.readWords?_splitOn
    {s : String} {c : CountedUnit} {count word : List Char}
    (h : IsWritten s c count word) :
    readWords? (s.toList.splitOn ' ') = some [c] := by
  rw [h.toList_eq, splitOn_append_blank h.blank_notMem_count,
    List.splitOn_eq_singleton h.blank_notMem_word]
  simp only [readWords?, h.readCount?_eq, h.ofWord?_eq]

/-- The text of a counted unit before a blank is read as the unit before what follows. -/
theorem IsWritten.readWords?_splitOn_append
    {s : String} {c : CountedUnit} {count word : List Char}
    (h : IsWritten s c count word)
    {rest : List Char} {cs : List CountedUnit}
    (hrest : readWords? (rest.splitOn ' ') = some cs) :
    readWords? ((s.toList ++ ' ' :: rest).splitOn ' ') = some (c :: cs) := by
  rw [h.toList_eq, List.append_assoc, List.cons_append, splitOn_append_blank h.blank_notMem_count,
    splitOn_append_blank h.blank_notMem_word]
  simp only [readWords?, h.readCount?_eq, h.ofWord?_eq, hrest]

/-- Texts of counted units with blanks between them are read as the units. -/
theorem readWords?_intercalate
    {ss : List String} {cs : List CountedUnit}
    (h : List.Forall₂ Writes ss cs)
    (hne : ss ≠ []) :
    readWords? ((String.intercalate " " ss).toList.splitOn ' ') = some cs := by
  rw [String.toList_intercalate]
  induction h with
  | nil => exact absurd rfl hne
  | @cons s c ss cs hwrites htail ih =>
    obtain ⟨count, word, hwritten⟩ := hwrites
    cases htail with
    | nil => simpa using hwritten.readWords?_splitOn
    | cons => simpa using hwritten.readWords?_splitOn_append (ih (by simp))

/-- The text of a counted unit starts with something else than a minus. -/
theorem Writes.exists_cons
    {s : String} {c : CountedUnit}
    (h : Writes s c) :
    ∃ d ds, s.toList = d :: ds ∧ d ≠ '-' := by
  obtain ⟨count, word, hwritten⟩ := h
  have hread := hwritten.readCount?_eq
  cases count with
  | nil => cases hread
  | cons d ds =>
    refine ⟨d, ds ++ ' ' :: word, hwritten.toList_eq, ?_⟩
    rintro rfl
    cases hread

/-- Texts of counted units do not start with a minus. -/
theorem head?_intercalate_ne
    {ss : List String} {cs : List CountedUnit}
    (h : List.Forall₂ Writes ss cs) :
    (String.intercalate " " ss).toList.head? ≠ some '-' := by
  rw [String.toList_intercalate]
  cases h with
  | nil => simp
  | @cons s _ ss _ hwrites _ =>
    obtain ⟨c, cs, hs, hc⟩ := hwrites.exists_cons
    cases ss <;> simp [hs, hc]

/-- Texts of counted units are read as the units, with the minus before them. -/
theorem read?_intercalate
    {ss : List String} {cs : List CountedUnit}
    (h : List.Forall₂ Writes ss cs)
    (hne : ss ≠ [])
    (negative : Bool) :
    read? (if negative then "-" ++ String.intercalate " " ss else String.intercalate " " ss) =
      some (negative, cs) := by
  have hread := readWords?_intercalate h hne
  have hhead := head?_intercalate_ne h
  generalize String.intercalate " " ss = body at hread hhead
  cases negative with
  | true => simp [read?, hread]
  | false =>
    rw [if_neg Bool.false_ne_true]
    unfold read?
    split
    · rename_i rest hrest
      simp [hrest] at hhead
    · simp [hread]

/-! ## Written counts -/

open Text

/-- A numeral with the word for a unit stands for a counted unit. -/
theorem writes_counted
    (m : Numeral)
    (isSingular : Bool)
    (u : TimeUnit) :
    Writes (Duration.counted (String.ofList m.text) isSingular u.name)
      ⟨m.coefficient * (10 : ℚ) ^ m.exponent, u, isSingular⟩ := by
  refine ⟨m.text, u.word isSingular, ?_⟩
  exact {
    toList_eq := by
      cases isSingular <;> simp [Duration.counted, TimeUnit.word]
    blank_notMem_count := by
      intro hblank
      exact absurd (Numeral.isNumeric_of_mem_text hblank) (by decide)
    blank_notMem_word := u.blank_notMem_word isSingular
    readCount?_eq := by
      rw [readCount?, m.readScientific?_text]
      rfl
    ofWord?_eq := u.ofWord?_word isSingular }

theorem isDigit_wholeDigits (n : Nat) : ∀ d ∈ Nat.toDigits 10 n, d.isDigit = true :=
  fun _ => isDigit_of_mem_toDigits

theorem wholeDigits_ne_nil (n : Nat) : Nat.toDigits 10 n ≠ [] := Nat.toDigits_ne_nil

theorem readPower?_nil : readPower? [] = some 0 := rfl

/-- The numeral of a whole number with decimal places. -/
def plainNumeral (n : Nat) (places : List Char) (h : ∀ d ∈ places, d.isDigit = true) : Numeral where
  whole := Nat.toDigits 10 n
  places := places
  power := []
  raised := 0
  whole_ne_nil := wholeDigits_ne_nil n
  isDigit_whole := isDigit_wholeDigits n
  isDigit_places := h
  readPower?_power := readPower?_nil

/-- The number that decimal places add to a whole number. -/
theorem value_plainNumeral
    (n : Nat)
    {places : List Char}
    (h : ∀ d ∈ places, d.isDigit = true) :
    (plainNumeral n places h).coefficient * (10 : ℚ) ^ (plainNumeral n places h).exponent =
      n + digitsValue places / (10 ^ places.length : ℕ) := by
  have hraised : (10 : ℚ) ^ (0 - (places.length : ℤ)) = ((10 ^ places.length : ℕ) : ℚ)⁻¹ := by
    rw [zero_sub, zpow_neg, zpow_natCast, Nat.cast_pow]
    rfl
  have hne : ((10 ^ places.length : ℕ) : ℚ) ≠ 0 := Nat.cast_ne_zero.mpr (by positivity)
  simp only [Numeral.coefficient, Numeral.exponent, plainNumeral, digitsValue_append,
    digitsValue_toDigits]
  rw [hraised, Nat.cast_add, Nat.cast_mul]
  field_simp

/-- A whole number with the word for a unit stands for as many of the unit. -/
theorem writes_counted_intText
    (n : Nat)
    (isSingular : Bool)
    (u : TimeUnit) :
    Writes (Duration.counted (intText n) isSingular u.name) ⟨n, u, isSingular⟩ := by
  have hnil : ∀ d ∈ ([] : List Char), d.isDigit = true := by simp
  have htext : intText n = String.ofList (plainNumeral n [] hnil).text := by
    simp [intText, Numeral.text, plainNumeral, pointed]
  have hvalue := value_plainNumeral n hnil
  rw [show digitsValue [] = 0 from rfl, Nat.cast_zero, zero_div, add_zero] at hvalue
  have hwrites := writes_counted (plainNumeral n [] hnil) isSingular u
  rwa [hvalue, ← htext] at hwrites

/-- The end of a row that is dropped consists of zeros. -/
theorem exists_zeros
    (cs : List Char) :
    ∃ zeros, cs = Duration.dropZeros cs ++ List.replicate zeros '0' := by
  have hsplit : cs = Duration.dropZeros cs ++ (cs.reverse.takeWhile (· == '0')).reverse := by
    rw [Duration.dropZeros, ← List.reverse_append, List.takeWhile_append_dropWhile,
      List.reverse_reverse]
  have hzeros : (cs.reverse.takeWhile (· == '0')).reverse =
      List.replicate (cs.reverse.takeWhile (· == '0')).reverse.length '0' := by
    refine List.eq_replicate_iff.mpr ⟨rfl, ?_⟩
    intro c hc
    exact beq_iff_eq.mp (List.all_eq_true.mp List.all_takeWhile c (List.mem_reverse.mp hc))
  exact ⟨_, hsplit.trans (congrArg (Duration.dropZeros cs ++ ·) hzeros)⟩

theorem mem_of_mem_dropZeros
    {cs : List Char} {c : Char}
    (h : c ∈ Duration.dropZeros cs) :
    c ∈ cs :=
  List.mem_reverse.mp ((List.dropWhile_sublist _).subset (List.mem_reverse.mp h))

/-- The places of a number of microseconds, with as many zeros as have been dropped. -/
theorem digitsValue_dropZeros
    {micros : Nat}
    (hmicros : micros < 10 ^ 6) :
    ∃ zeros, (Duration.dropZeros (paddedDigits 10 6 micros)).length + zeros = 6 ∧
      digitsValue (Duration.dropZeros (paddedDigits 10 6 micros)) * 10 ^ zeros = micros := by
  obtain ⟨zeros, hzeros⟩ := exists_zeros (paddedDigits 10 6 micros)
  have hlength : (paddedDigits 10 6 micros).length = 6 :=
    length_paddedDigits (by decide) (by decide) hmicros
  have hvalue := digitsValue_paddedDigits 6 micros
  rw [hzeros, List.length_append, List.length_replicate] at hlength
  rw [hzeros, digitsValue_append, digitsValue_zeros, List.length_replicate] at hvalue
  refine ⟨zeros, hlength, ?_⟩
  rw [Nat.mul_comm]
  exact hvalue

/-- Seconds with a fraction stand for the seconds and the microseconds. -/
theorem writes_fractionalSeconds
    {seconds micros : Nat}
    (hpos : 0 < micros)
    (hmicros : micros < 10 ^ 6) :
    Writes (Duration.fractionalSeconds seconds micros)
      ⟨seconds + micros / (1000000 : ℕ), .second, false⟩ := by
  have hdigits : ∀ d ∈ Duration.dropZeros (paddedDigits 10 6 micros), d.isDigit = true :=
    fun _ hd => isDigit_of_mem_paddedDigits (mem_of_mem_dropZeros hd)
  have hvalue := value_plainNumeral seconds hdigits
  obtain ⟨zeros, hlength, hfraction⟩ := digitsValue_dropZeros hmicros
  have hplaces : Duration.dropZeros (paddedDigits 10 6 micros) ≠ [] := by
    intro hnil
    rw [hnil] at hfraction
    simp [digitsValue] at hfraction
    omega
  have htext : Duration.fractionalSeconds seconds micros =
      Duration.counted (String.ofList (plainNumeral seconds _ hdigits).text) false
        TimeUnit.second.name := by
    rw [← String.toList_inj]
    simp [Duration.fractionalSeconds, Duration.counted, Numeral.text, plainNumeral, pointed,
      hplaces, TimeUnit.name]
  have hcount : (digitsValue (Duration.dropZeros (paddedDigits 10 6 micros)) : ℚ) /
      (10 ^ (Duration.dropZeros (paddedDigits 10 6 micros)).length : ℕ) =
        micros / (1000000 : ℕ) := by
    generalize (Duration.dropZeros (paddedDigits 10 6 micros)).length = places at hlength ⊢
    generalize digitsValue (Duration.dropZeros (paddedDigits 10 6 micros)) = fraction at hfraction ⊢
    have hpow : 1000000 = 10 ^ places * 10 ^ zeros := by rw [← Nat.pow_add, hlength]
    have hzeros : ((10 ^ zeros : ℕ) : ℚ) ≠ 0 := Nat.cast_ne_zero.mpr (by positivity)
    rw [hpow, ← hfraction, Nat.cast_mul, Nat.cast_mul, mul_div_mul_right _ _ hzeros]
  rw [htext, ← hcount, ← hvalue]
  exact writes_counted _ _ _

end CountedUnit

/-! ## The units of a duration -/

namespace Duration

open CountedUnit

/-- How often each unit counts in a number of microseconds. -/
def count (n : Nat) : TimeUnit → ℚ
  | .day => (n / 86400000000 : ℕ)
  | .hour => (n % 86400000000 / 3600000000 : ℕ)
  | .minute => (n % 3600000000 / 60000000 : ℕ)
  | .second => (n % 60000000 : ℕ) / (1000000 : ℕ)

/-- Whether a unit is written: where it counts, and for no time the second. -/
def isShown (n : Nat) (u : TimeUnit) : Bool :=
  count n u ≠ 0 ∨ n = 0 ∧ u = .second

/-- A unit as it counts in a number of microseconds. -/
def counts (n : Nat) (u : TimeUnit) : CountedUnit := ⟨count n u, u, count n u = 1⟩

/-- The counted units of a number of microseconds. -/
def units (n : Nat) : List CountedUnit := (TimeUnit.all.filter (isShown n)).map (counts n)

theorem units_eq_append (n : Nat) :
    units n = ([TimeUnit.day].filter (isShown n)).map (counts n) ++
      ([TimeUnit.hour].filter (isShown n)).map (counts n) ++
      ([TimeUnit.minute].filter (isShown n)).map (counts n) ++
      ([TimeUnit.second].filter (isShown n)).map (counts n) := by
  simp only [← List.map_append, ← List.filter_append]
  rfl

/-- The counts, each with its unit, make up the number. -/
theorem sum_micros_units (n : Nat) :
    ((units n).map CountedUnit.micros).sum = n := by
  have hpart (u : TimeUnit) :
      ((([u].filter (isShown n)).map (counts n)).map CountedUnit.micros).sum =
        count n u * u.micros := by
    by_cases hshown : isShown n u = true
    · simp [hshown, counts, CountedUnit.micros]
    · have hzero : count n u = 0 := by
        by_contra hne
        exact hshown (decide_eq_true (.inl hne))
      simp [hshown, hzero]
  have hnat : n = n / 86400000000 * 86400000000 + n % 86400000000 / 3600000000 * 3600000000 +
      n % 3600000000 / 60000000 * 60000000 + n % 60000000 := by omega
  have hsecond : ((n % 60000000 : ℕ) / (1000000 : ℕ) * (1000000 : ℕ) : ℚ) = (n % 60000000 : ℕ) :=
    div_mul_cancel₀ _ (Nat.cast_ne_zero.mpr (by decide))
  rw [units_eq_append]
  simp only [List.map_append, List.sum_append, hpart, count, TimeUnit.micros, hsecond]
  exact_mod_cast hnat.symm

theorem isShown_eq
    {u : TimeUnit}
    (hne : u ≠ .second)
    (n : Nat) :
    isShown n u = decide (count n u ≠ 0) := by
  simp [isShown, hne]

/-- The written count of a unit, or nothing for a count of zero. -/
theorem forall₂_item
    {n k : Nat} {u : TimeUnit}
    (hne : u ≠ .second)
    (hcount : count n u = k) :
    List.Forall₂ Writes (item k u.name) (([u].filter (isShown n)).map (counts n)) := by
  by_cases hk : k = 0
  · simp [item, isShown_eq hne, hcount, hk]
  · have hwrites := writes_counted_intText k (k == 1) u
    have hone : (k == 1) = decide ((k : ℚ) = 1) := by
      rw [decide_eq_decide.mpr Nat.cast_eq_one]
      rfl
    simpa [item, isShown_eq hne, counts, hcount, hk, hone] using hwrites

/-- The written seconds of a duration, after the larger units. -/
def lastItem (n : Nat) (larger : List String) : List String :=
  if n % 1000000 ≠ 0 then [fractionalSeconds (n / 1000000 % 60) (n % 1000000)]
  else if n / 1000000 % 60 ≠ 0 ∨ larger = [] then
    [counted (Text.intText (n / 1000000 % 60 : ℕ)) (n / 1000000 % 60 == 1) "second"]
  else []

theorem items_eq_append (n : Nat) :
    let larger := item (n / 86400000000) "day" ++ item (n % 86400000000 / 3600000000) "hour" ++
      item (n % 3600000000 / 60000000) "minute"
    items n = larger ++ lastItem n larger := by
  intro larger
  have hday : n / 1000000 / 86400 = n / 86400000000 := by omega
  have hhour : n / 1000000 % 86400 / 3600 = n % 86400000000 / 3600000000 := by omega
  have hminute : n / 1000000 % 3600 / 60 = n % 3600000000 / 60000000 := by omega
  simp only [items, microsPerSecond, secondsPerDay, secondsPerHour, hday, hhour, hminute]
  change (if _ then larger ++ _ else if _ ∨ larger = [] then larger ++ _ else larger) = _
  simp only [lastItem]
  split
  · rfl
  · split
    · rfl
    · exact (List.append_nil larger).symm

theorem item_eq_nil_iff
    {k : Nat} {unit : String} :
    item k unit = [] ↔ k = 0 := by
  unfold item
  split <;> simp_all

theorem count_second_eq_zero_iff {n : Nat} : count n .second = 0 ↔ n % 60000000 = 0 := by
  have hne : ((1000000 : ℕ) : ℚ) ≠ 0 := Nat.cast_ne_zero.mpr (by decide)
  rw [count, div_eq_zero_iff, or_iff_left hne, Nat.cast_eq_zero]

theorem count_second_eq_one_iff {n : Nat} : count n .second = 1 ↔ n % 60000000 = 1000000 := by
  have hne : ((1000000 : ℕ) : ℚ) ≠ 0 := Nat.cast_ne_zero.mpr (by decide)
  rw [count, div_eq_one_iff_eq hne, Nat.cast_inj]

theorem count_second (n : Nat) :
    count n .second = (n / 1000000 % 60 : ℕ) + (n % 1000000 : ℕ) / (1000000 : ℕ) := by
  have hne : ((1000000 : ℕ) : ℚ) ≠ 0 := Nat.cast_ne_zero.mpr (by decide)
  have hsplit : n % 60000000 = n / 1000000 % 60 * 1000000 + n % 1000000 := by omega
  rw [count, hsplit, Nat.cast_add, Nat.cast_mul, add_div, mul_div_cancel_right₀ _ hne]

/-- The written seconds of a duration stand for its seconds. -/
theorem forall₂_lastItem
    {n : Nat} {larger : List String}
    (hlarger : larger = [] ↔ n < 60000000) :
    List.Forall₂ Writes (lastItem n larger) (([TimeUnit.second].filter (isShown n)).map (counts n)) := by
  have hshown : isShown n .second = true ↔ n % 60000000 ≠ 0 ∨ n = 0 := by
    simp [isShown, count_second_eq_zero_iff]
  unfold lastItem
  split
  · rename_i hmicros
    have hplural : ¬ count n .second = 1 := by
      rw [count_second_eq_one_iff]
      omega
    have hsecond : counts n .second =
        ⟨(n / 1000000 % 60 : ℕ) + (n % 1000000 : ℕ) / (1000000 : ℕ), .second, false⟩ := by
      rw [counts, decide_eq_false hplural, count_second]
    rw [List.filter_cons_of_pos (hshown.mpr (by omega)), List.filter_nil, List.map_singleton, hsecond]
    exact .cons (writes_fractionalSeconds (Nat.pos_of_ne_zero hmicros) (Nat.mod_lt n (by decide))) .nil
  · rename_i hwhole
    have hwhole : n % 1000000 = 0 := by omega
    simp only [hlarger]
    split
    · have hsingular : count n .second = 1 ↔ n / 1000000 % 60 = 1 := by
        rw [count_second_eq_one_iff]
        omega
      have hsecond : counts n .second =
          ⟨(n / 1000000 % 60 : ℕ), .second, n / 1000000 % 60 == 1⟩ := by
        rw [counts, decide_eq_decide.mpr hsingular, count_second, hwhole, Nat.cast_zero, zero_div,
          add_zero]
        rfl
      rw [List.filter_cons_of_pos (hshown.mpr (by omega)), List.filter_nil, List.map_singleton, hsecond]
      exact .cons (writes_counted_intText _ _ .second) .nil
    · rw [List.filter_cons_of_neg (mt hshown.mp (by omega))]
      exact .nil

/-- The text of each unit that counts stands for the unit. -/
theorem forall₂_writes_items (n : Nat) : List.Forall₂ Writes (items n) (units n) := by
  rw [units_eq_append, items_eq_append]
  have hday := forall₂_item (n := n) (u := .day) (by decide) rfl
  have hhour := forall₂_item (n := n) (u := .hour) (by decide) rfl
  have hminute := forall₂_item (n := n) (u := .minute) (by decide) rfl
  refine List.rel_append (List.rel_append (List.rel_append hday hhour) hminute) ?_
  refine forall₂_lastItem ?_
  simp only [List.append_eq_nil_iff, item_eq_nil_iff]
  omega

/-- Some unit is always written. -/
theorem items_ne_nil (n : Nat) : items n ≠ [] := by
  dsimp only [items]
  split
  · simp
  · split
    · simp
    · rename_i hlast
      exact fun hnil => hlast (.inr hnil)

/-- The text of a duration is read as its sign and the units that count in it. -/
theorem read?_text (d : Duration) :
    read? d.text = some (d.isNegative, units d.micros.natAbs) :=
  read?_intercalate (forall₂_writes_items d.micros.natAbs) (items_ne_nil _) d.isNegative

/-! ## The form of a text -/

/-- That counted units, after a minus or none, spell a duration as its text is to spell it. -/
structure IsSpelled (d : Duration) (negative : Bool) (cs : List CountedUnit) : Prop where
  negative_iff : negative = true ↔ d.micros < 0
  total_eq : total negative cs = d.micros
  decreasing : cs.Pairwise fun c c' => c'.unit.micros < c.unit.micros
  whole : ∀ c ∈ cs, c.unit ≠ .second → ∃ n : Nat, c.count = n
  below_limit : ∀ c ∈ cs, ∀ limit ∈ c.unit.limit?, c.count < limit
  pos : d.micros ≠ 0 → ∀ c ∈ cs, 0 < c.count
  zero : d.micros = 0 → cs = [⟨0, .second, false⟩]
  singular_iff : ∀ c ∈ cs, c.isSingular = true ↔ c.count = 1

theorem exists_of_mem_units
    {n : Nat} {c : CountedUnit}
    (h : c ∈ units n) :
    ∃ u, isShown n u = true ∧ c = counts n u := by
  obtain ⟨u, hu, hc⟩ := List.mem_map.mp h
  exact ⟨u, (List.mem_filter.mp hu).2, hc.symm⟩

theorem count_nonneg (n : Nat) (u : TimeUnit) : 0 ≤ count n u := by
  cases u with
  | day => exact Nat.cast_nonneg _
  | hour => exact Nat.cast_nonneg _
  | minute => exact Nat.cast_nonneg _
  | second => exact div_nonneg (Nat.cast_nonneg _) (Nat.cast_nonneg _)

/-- A count does not reach the next larger unit. -/
theorem count_lt
    {u : TimeUnit} {limit : Nat}
    (h : limit ∈ u.limit?)
    (n : Nat) :
    count n u < limit := by
  cases u with
  | day => cases h
  | hour =>
    cases h
    exact Nat.cast_lt.mpr (by omega)
  | minute =>
    cases h
    exact Nat.cast_lt.mpr (by omega)
  | second =>
    cases h
    rw [count, div_lt_iff₀ (Nat.cast_pos.mpr (by decide)), ← Nat.cast_mul]
    exact Nat.cast_lt.mpr (Nat.mod_lt n (by decide))

theorem total_units (d : Duration) : total d.isNegative (units d.micros.natAbs) = d.micros := by
  rw [total, sum_micros_units, Nat.cast_natAbs, Int.cast_abs]
  by_cases hd : d.micros < 0
  · have hneg : (d.micros : ℚ) < 0 := Int.cast_lt_zero.mpr hd
    rw [isNegative, decide_eq_true hd, if_pos rfl, abs_of_neg hneg, neg_neg]
  · have hnonneg : 0 ≤ (d.micros : ℚ) := Int.cast_nonneg (not_lt.mp hd)
    rw [isNegative, decide_eq_false hd, if_neg Bool.false_ne_true, abs_of_nonneg hnonneg]

theorem units_zero : units 0 = [⟨0, .second, false⟩] := by
  have hcount (u : TimeUnit) : count 0 u = 0 := by cases u <;> simp [count]
  simp [units, TimeUnit.all, isShown, counts, hcount]

/-- The units that count in a duration spell it. -/
theorem isSpelled_units (d : Duration) : d.IsSpelled d.isNegative (units d.micros.natAbs) where
  negative_iff := decide_eq_true_iff
  total_eq := total_units d
  decreasing := by
    have hall : TimeUnit.all.Pairwise fun u u' => u'.micros < u.micros := by decide
    exact List.pairwise_map.mpr (hall.filter _)
  whole := by
    intro c hc hne
    obtain ⟨u, -, rfl⟩ := exists_of_mem_units hc
    cases u with
    | day => exact ⟨_, rfl⟩
    | hour => exact ⟨_, rfl⟩
    | minute => exact ⟨_, rfl⟩
    | second => exact absurd rfl hne
  below_limit := by
    intro c hc limit hlimit
    obtain ⟨u, -, rfl⟩ := exists_of_mem_units hc
    exact count_lt hlimit _
  pos := by
    intro hd c hc
    obtain ⟨u, hshown, rfl⟩ := exists_of_mem_units hc
    rcases of_decide_eq_true hshown with hcount | ⟨hzero, -⟩
    · exact lt_of_le_of_ne (count_nonneg _ u) (Ne.symm hcount)
    · exact absurd (Int.natAbs_eq_zero.mp hzero) hd
  zero := by
    intro hd
    rw [hd]
    exact units_zero
  singular_iff := by
    intro c hc
    obtain ⟨u, -, rfl⟩ := exists_of_mem_units hc
    exact decide_eq_true_iff

end Duration

/-! ## Numbers of seconds -/

section Seconds

open CountedUnit Duration

/-- The text of a plain count of seconds is read as its sign and its magnitude. -/
theorem read?_counted_intText (n : Int) :
    read? (counted (Text.intText n) false "second") =
      some (decide (n < 0), [⟨n.natAbs, .second, false⟩]) := by
  have hwrites := writes_counted_intText n.natAbs false .second
  have hread := read?_intercalate (.cons hwrites .nil) (by simp) (decide (n < 0))
  rw [← hread]
  cases n with
  | ofNat n => rfl
  | negSucc n => exact congrArg read? (String.toList_inj.mp (by simp [counted, Text.intText, TimeUnit.name]))

theorem total_plainCount (n : Int) :
    total (decide (n < 0)) [⟨n.natAbs, .second, false⟩] = n * 1000000 := by
  cases n with
  | ofNat n => simp [total, CountedUnit.micros, TimeUnit.micros]
  | negSucc n =>
    simp [total, CountedUnit.micros, TimeUnit.micros]
    ring

theorem isNegative_ofSeconds (n : Int) : (ofSeconds n).isNegative = decide (n < 0) := by
  refine decide_eq_decide.mpr ?_
  simp only [ofSeconds, microsPerSecond]
  omega

theorem wholeDays_ofSeconds (n : Int) : (ofSeconds n).wholeDays = n / 86400 := by
  rw [wholeDays, Int.fdiv_eq_ediv_of_nonneg _ (Int.natCast_nonneg _)]
  simp only [ofSeconds, microsPerDay, secondsPerDay, microsPerSecond]
  omega

/-- A number of whole seconds between the least duration and the numbers that are written as plain
counts. -/
def IsBelowDurations (n : Int) : Prop :=
  -(maxSeconds : Int) ≤ n ∧ n < -(maxDays * secondsPerDay : Int)

/-- A number of seconds below the durations is refused. -/
theorem secondsText_of_isBelowDurations
    {n : Int}
    (h : IsBelowDurations n) :
    secondsText n = .error (.days (-1000000000)) := by
  simp only [IsBelowDurations, maxSeconds, maxDays, secondsPerDay] at h
  have hdays : (ofSeconds n).wholeDays = -1000000000 := by
    rw [wholeDays_ofSeconds]
    omega
  have hshort : ¬ maxSeconds < n.natAbs := by
    simp only [maxSeconds, maxDays, secondsPerDay]
    omega
  rw [secondsText, if_neg hshort, checked, hdays]
  rfl

/-- Any other number of seconds with few enough digits is written, and read back. -/
theorem exists_secondsText
    {n : Int}
    (hdigits : Text.isWritable n = true)
    (h : ¬ IsBelowDurations n) :
    ∃ s cs, secondsText n = .ok s ∧ read? s = some (decide (n < 0), cs) ∧
      total (decide (n < 0)) cs = n * 1000000 := by
  unfold secondsText
  split
  · refine ⟨_, _, ?_, read?_counted_intText n, total_plainCount n⟩
    rw [intText?_eq_some hdigits]
  · rename_i hshort
    have hheld : (ofSeconds n).IsHeld := by
      rw [isHeld_iff]
      simp only [IsBelowDurations, ofSeconds, maxSeconds, maxDays, microsPerDay, secondsPerDay,
        microsPerSecond] at h hshort ⊢
      omega
    have hread := read?_text (ofSeconds n)
    have htotal := total_units (ofSeconds n)
    rw [isNegative_ofSeconds] at hread htotal
    refine ⟨(ofSeconds n).text, units (ofSeconds n).micros.natAbs, ?_, hread, ?_⟩
    · rw [checked_eq_ok hheld]
      rfl
    · rw [htotal, ofSeconds, Int.cast_mul]
      rfl

theorem isWritable_of_secondsText
    {n : Int} {s : String}
    (h : secondsText n = .ok s) :
    Text.isWritable n = true := by
  by_cases hlong : maxSeconds < n.natAbs
  · rw [secondsText, if_pos hlong, Text.intText?] at h
    by_contra hdigits
    rw [if_neg hdigits] at h
    cases h
  · exact isWritable_of_le_maxSeconds (not_lt.mp hlong)

/-- A number of seconds that has a text is read back from it. -/
theorem read?_secondsText
    {n : Int} {s : String}
    (h : secondsText n = .ok s) :
    ∃ cs, read? s = some (decide (n < 0), cs) ∧ total (decide (n < 0)) cs = n * 1000000 := by
  have hn : ¬ IsBelowDurations n := by
    intro hbelow
    rw [secondsText_of_isBelowDurations hbelow] at h
    cases h
  obtain ⟨s', cs, hs', hread, htotal⟩ := exists_secondsText (isWritable_of_secondsText h) hn
  rw [h] at hs'
  cases hs'
  exact ⟨cs, hread, htotal⟩

end Seconds

namespace Duration

open CountedUnit

/-- The text of a duration is read back as the duration in strictly decreasing units, so that different
durations have different texts. A number of seconds that has few enough digits is read back from its
text as well, unless it lies between the least duration and the plain counts, where it has none. -/
theorem texts_read_back
    (d : Duration)
    (n : Int) :
    (∃ negative cs, read? d.text = some (negative, cs) ∧ d.IsSpelled negative cs) ∧
      (∀ e : Duration, e.text = d.text → e = d) ∧
      (Text.isWritable n = true → ¬ IsBelowDurations n → ∃ s negative cs,
        secondsText n = .ok s ∧ read? s = some (negative, cs) ∧ total negative cs = n * 1000000) ∧
      (IsBelowDurations n → secondsText n = .error (.days (-1000000000))) ∧
      ∀ m : Int, ∀ s, secondsText m = .ok s → secondsText n = .ok s → m = n := by
  refine ⟨⟨_, _, read?_text d, isSpelled_units d⟩, ?_, ?_, secondsText_of_isBelowDurations, ?_⟩
  · intro e htext
    have hread := read?_text e
    rw [htext, read?_text d, Option.some.injEq, Prod.mk.injEq] at hread
    have htotal := total_units e
    rw [← hread.1, ← hread.2, total_units d, Int.cast_inj] at htotal
    cases d
    cases e
    exact congrArg mk htotal.symm
  · intro hdigits hn
    obtain ⟨s, cs, hs⟩ := exists_secondsText hdigits hn
    exact ⟨s, _, cs, hs⟩
  · intro m s hm hn
    obtain ⟨cs, hmread, hmtotal⟩ := read?_secondsText hm
    obtain ⟨ds, hnread, hntotal⟩ := read?_secondsText hn
    rw [hmread, Option.some.injEq, Prod.mk.injEq] at hnread
    rw [← hnread.1, ← hnread.2, hmtotal] at hntotal
    have hne : (1000000 : ℚ) ≠ 0 := by norm_num
    exact Int.cast_injective (mul_right_cancel₀ hne hntotal)

/-- Minus one second is read back from its text. A second less than the least duration has no text. -/
theorem texts_read_back_negative :
    (∃ s negative cs, secondsText (-1) = .ok s ∧ read? s = some (negative, cs) ∧
      total negative cs = (-1 : Int) * 1000000) ∧
      IsBelowDurations (-86399999913601) ∧
      secondsText (-86399999913601) = .error (.days (-1000000000)) := by
  have hbelow : IsBelowDurations (-86399999913601) := by
    simp only [IsBelowDurations, maxSeconds, maxDays, secondsPerDay]
    omega
  have hone : ¬ IsBelowDurations (-1) := by
    simp only [IsBelowDurations, maxSeconds, maxDays, secondsPerDay]
    omega
  obtain ⟨-, -, hwritten, -⟩ := texts_read_back zero (-1)
  obtain ⟨-, -, -, hrefused, -⟩ := texts_read_back zero (-86399999913601)
  exact ⟨hwritten (isWritable_of_le_maxSeconds (by decide)) hone, hbelow, hrefused hbelow⟩

/-- The numbers of seconds between the plain counts and the least duration have few digits but no text,
unlike the numbers next to them. -/
theorem secondsText_beside_durations :
    Text.isWritable (-86399999999999) = true ∧
      secondsText (-86400000000000) = .ok "-86400000000000 seconds" ∧
      secondsText (-86399999999999) = .error (.days (-1000000000)) ∧
      secondsText (-86399999913601) = .error (.days (-1000000000)) ∧
      secondsText (-86399999913600) = .ok "-999999999 days" := by
  have hdigits : Text.isWritable (-86399999999999) = true :=
    isWritable_of_le_maxSeconds (by decide)
  have hbelow : ∀ n : Int, -86399999999999 ≤ n → n ≤ -86399999913601 → IsBelowDurations n := by
    intro n
    simp only [IsBelowDurations, maxSeconds, maxDays, secondsPerDay]
    omega
  refine ⟨hdigits, by decide +kernel, ?_, ?_, by decide +kernel⟩
  · exact secondsText_of_isBelowDurations (hbelow _ (by decide) (by decide))
  · exact secondsText_of_isBelowDurations (hbelow _ (by decide) (by decide))

end Duration
end RollupAudit
