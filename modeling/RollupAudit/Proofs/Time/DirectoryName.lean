import Mathlib.Data.String.Basic
import RollupAudit.Proofs.Files.MadeDirectories
import RollupAudit.Proofs.Time.InstantText

/-!
# Instants in names of directories

The name of the directory of an instant shows the date and the time of day to the second. So it tells
the second of the instant, and nothing of the microseconds in it.

**Results.**
* `Instant.directoryName_eq_iff`: which instants share a directory.
* `Instant.isUsable_directoryName`: the name can be the name of a directory.
-/

namespace RollupAudit

open Text InternetTime

namespace Instant

variable {i j : Instant}

/-- The whole seconds since the start of the year 1. -/
def second (i : Instant) : Nat := i.micros / Duration.microsPerSecond

/-- The date is that of the second. -/
theorem date_eq (i : Instant) :
    i.date = CalendarDate.partsOfDay (i.second / Duration.secondsPerDay) := by
  rw [date, second, Nat.div_div_eq_div_mul]
  rfl

/-- The time of day to the second is that of the second. -/
theorem clock_eq (i : Instant) :
    i.clock.hour = i.second % Duration.secondsPerDay / 3600 ∧
      i.clock.minute = i.second % Duration.secondsPerDay / 60 % 60 ∧
      i.clock.second = i.second % Duration.secondsPerDay % 60 := by
  simp only [clock, ClockTime.ofMicros, second, Duration.microsPerDay, Duration.secondsPerDay,
    Duration.microsPerSecond]
  omega

/-- Digits of a fixed width in front of texts that are the same are those of one number. -/
theorem paddedDigits_append_inj
    {width m n : Nat} {cs ds : List Char}
    (hwidth : 0 < width)
    (hm : m < 10 ^ width)
    (hn : n < 10 ^ width)
    (h : paddedDigits 10 width m ++ cs = paddedDigits 10 width n ++ ds) :
    m = n ∧ cs = ds := by
  have hread := number?_paddedDigits hwidth hm cs
  rw [h, number?_paddedDigits hwidth hn ds] at hread
  cases hread
  exact ⟨rfl, rfl⟩

theorem toDigits_append_inj
    {m n : Nat} {cs ds : List Char}
    (hcs : NoDigitHead cs)
    (hds : NoDigitHead ds)
    (h : Nat.toDigits 10 m ++ cs = Nat.toDigits 10 n ++ ds) :
    m = n ∧ cs = ds := by
  have hm : ∀ d ∈ Nat.toDigits 10 m, d.isDigit = true := fun _ => isDigit_of_mem_toDigits
  have hn : ∀ d ∈ Nat.toDigits 10 n, d.isDigit = true := fun _ => isDigit_of_mem_toDigits
  have hdigits := congrArg (List.takeWhile Char.isDigit) h
  have hrest := congrArg (List.dropWhile Char.isDigit) h
  rw [takeWhile_digits hm hcs, takeWhile_digits hn hds] at hdigits
  rw [dropWhile_digits hm hcs, dropWhile_digits hn hds] at hrest
  exact ⟨by rw [← digitsValue_toDigits m, hdigits, digitsValue_toDigits], hrest⟩

theorem day_lt (i : Instant) : i.second / Duration.secondsPerDay < calendarDays := by
  have hmicros : i.micros < calendarDays * Duration.microsPerDay := i.micros_lt
  simp only [second, Duration.microsPerDay, Duration.secondsPerDay, Duration.microsPerSecond] at hmicros ⊢
  omega

/-- Instants with one date and one time of day to the second are in one second. -/
theorem second_eq_of_clock
    (hdate : i.date = j.date)
    (hhour : i.clock.hour = j.clock.hour)
    (hminute : i.clock.minute = j.clock.minute)
    (hsecond : i.clock.second = j.clock.second) :
    i.second = j.second := by
  rw [date_eq, date_eq] at hdate
  have hday := CalendarDate.eq_of_partsOfDay_eq i.day_lt j.day_lt hdate
  rw [i.clock_eq.1, j.clock_eq.1] at hhour
  rw [i.clock_eq.2.1, j.clock_eq.2.1] at hminute
  rw [i.clock_eq.2.2, j.clock_eq.2.2] at hsecond
  simp only [Duration.secondsPerDay] at hday hhour hminute hsecond
  omega

/-- The year of an instant has four digits at most, its month and day, hour, minute and second two. -/
theorem parts_lt (i : Instant) :
    (i.date.1 < 10 ^ 4 ∧ i.date.2.1 < 10 ^ 2 ∧ i.date.2.2 < 10 ^ 2) ∧
      i.clock.hour < 10 ^ 2 ∧ i.clock.minute < 10 ^ 2 ∧ i.clock.second < 10 ^ 2 := by
  obtain ⟨d, hparts, -⟩ := exists_date i
  have hdate := d.isDate_eq
  have hlong := daysInMonth_le d.year d.month
  simp only [isDate, Bool.and_eq_true, decide_eq_true_eq] at hdate
  have hyear : lastYear < 10 ^ 4 := by decide
  obtain ⟨hhour, hminute, hsecond⟩ := i.clock_eq
  rw [hparts, hhour, hminute, hsecond]
  simp only [Duration.secondsPerDay]
  omega

/-- Instants share the name of their directory exactly if they are in one second. -/
theorem directoryName_eq_iff : i.directoryName = j.directoryName ↔ i.second = j.second := by
  constructor
  · intro h
    obtain ⟨⟨-, hmonth, hday⟩, hhour, hminute, hsecond⟩ := i.parts_lt
    obtain ⟨⟨-, hmonth', hday'⟩, hhour', hminute', hsecond'⟩ := j.parts_lt
    have htwo : 0 < 2 := by decide
    have hhyphen (cs : List Char) : NoDigitHead ('-' :: cs) := noDigitHead_cons (by decide)
    have htext := String.ofList_injective h
    simp only [List.append_assoc, List.cons_append] at htext
    -- the year ends at its hyphen; all other numbers have two digits
    obtain ⟨hyearEq, htext⟩ := toDigits_append_inj (hhyphen _) (hhyphen _) htext
    obtain ⟨hmonthEq, htext⟩ :=
      paddedDigits_append_inj htwo hmonth hmonth' (List.tail_eq_of_cons_eq htext)
    obtain ⟨hdayEq, htext⟩ := paddedDigits_append_inj htwo hday hday' (List.tail_eq_of_cons_eq htext)
    obtain ⟨hhourEq, htext⟩ :=
      paddedDigits_append_inj htwo hhour hhour' (List.tail_eq_of_cons_eq htext)
    obtain ⟨hminuteEq, htext⟩ := paddedDigits_append_inj htwo hminute hminute' htext
    obtain ⟨hsecondEq, -⟩ := paddedDigits_append_inj htwo hsecond hsecond' htext
    exact second_eq_of_clock (Prod.ext hyearEq (Prod.ext hmonthEq hdayEq)) hhourEq hminuteEq hsecondEq
  · intro h
    obtain ⟨hhour, hminute, hsecond⟩ := i.clock_eq
    obtain ⟨hhour', hminute', hsecond'⟩ := j.clock_eq
    simp only [directoryName, date_eq, hhour, hminute, hsecond, hhour', hminute', hsecond', h]

/-! ## The name of a directory -/

theorem toList_directoryName (i : Instant) :
    i.directoryName.toList =
      Nat.toDigits 10 i.date.1 ++ '-' :: paddedDigits 10 2 i.date.2.1 ++
        '-' :: paddedDigits 10 2 i.date.2.2 ++ 'T' :: paddedDigits 10 2 i.clock.hour ++
        paddedDigits 10 2 i.clock.minute ++ paddedDigits 10 2 i.clock.second ++ ['Z'] :=
  String.toList_ofList

/-- The name has digits and marks only. -/
theorem isDigit_or_of_mem_directoryName
    {c : Char}
    (h : c ∈ i.directoryName.toList) :
    c.isDigit = true ∨ c = '-' ∨ c = 'T' ∨ c = 'Z' := by
  simp only [toList_directoryName, List.append_assoc, List.cons_append, List.mem_append, List.mem_cons,
    List.not_mem_nil, or_false] at h
  rcases h with h | h | h | h | h | h | h | h | h | h
  · exact .inl (isDigit_of_mem_toDigits h)
  · exact .inr (.inl h)
  · exact .inl (isDigit_of_mem_paddedDigits h)
  · exact .inr (.inl h)
  · exact .inl (isDigit_of_mem_paddedDigits h)
  · exact .inr (.inr (.inl h))
  · exact .inl (isDigit_of_mem_paddedDigits h)
  · exact .inl (isDigit_of_mem_paddedDigits h)
  · exact .inl (isDigit_of_mem_paddedDigits h)
  · exact .inr (.inr (.inr h))

theorem notMem_directoryName
    {c : Char}
    (hdigit : c.isDigit = false)
    (hmark : c ≠ '-' ∧ c ≠ 'T' ∧ c ≠ 'Z') :
    c ∉ i.directoryName.toList := by
  intro h
  rcases isDigit_or_of_mem_directoryName h with h | h | h | h
  · rw [hdigit] at h
    cases h
  · exact hmark.1 h
  · exact hmark.2.1 h
  · exact hmark.2.2 h

theorem length_directoryName_le (i : Instant) : i.directoryName.toList.length ≤ 18 := by
  obtain ⟨⟨hyear, hmonth, hday⟩, hhour, hminute, hsecond⟩ := i.parts_lt
  have hyears : (Nat.toDigits 10 i.date.1).length ≤ 4 :=
    (Nat.length_toDigits_le_iff (by decide) (by decide)).mpr hyear
  have htwo {n : Nat} (h : n < 10 ^ 2) : (paddedDigits 10 2 n).length = 2 :=
    length_paddedDigits (by decide) (by decide) h
  simp only [toList_directoryName, List.length_append, List.length_cons, List.length_nil, htwo hmonth,
    htwo hday, htwo hhour, htwo hminute, htwo hsecond]
  omega

/-- The name of the directory of an instant can be one. -/
theorem isUsable_directoryName (i : Instant) : FileTree.IsUsable i.directoryName where
  notAbove := by
    intro h
    have hdot : '.' ∈ i.directoryName.toList := by rw [h]; decide
    exact notMem_directoryName (by decide) (by decide) hdot
  noZero := notMem_directoryName (by decide) (by decide)
  noBarred := FilePath.any_isBarred_of_notMem (notMem_directoryName (by decide) (by decide))
  isShort := by
    have hsize := FilePath.nameSize_le i.directoryName
    have hlength := i.length_directoryName_le
    rw [FileTree.maxNameLength]
    omega

theorem isOneName_directoryName (i : Instant) : FilePath.IsOneName i.directoryName where
  noSlash := notMem_directoryName (by decide) (by decide)
  isName := by
    have hmark : 'Z' ∈ i.directoryName.toList := by simp [toList_directoryName]
    have hname (s : String) (hs : 'Z' ∉ s.toList) : i.directoryName ≠ s := by
      rintro rfl
      exact hs hmark
    simp [FilePath.isName, hname "" (by decide), hname "." (by decide)]

end Instant
end RollupAudit
