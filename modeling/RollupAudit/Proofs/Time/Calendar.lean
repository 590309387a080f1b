import RollupAudit.Time.Calendar

/-!
# Days of the calendar

The year, month and day of a day number are a date of the calendar, and the day number of that date
is the day number again.

**Results.**
* `CalendarDate.yearOfDay_spec`: a day falls into the year that is found for it.
* `CalendarDate.monthOfDay_spec`: a day of a year falls into the month that is found for it.
* `CalendarDate.exists_partsOfDay`: the date of a day of the calendar has the number of the day.
* `CalendarDate.eq_of_partsOfDay_eq`: two days of the calendar have different dates.
-/

namespace RollupAudit

/-- The number of days of a year. -/
def daysInYear (year : Nat) : Nat := if isLeapYear year then 366 else 365

theorem daysInMonth_le (year month : Nat) : daysInMonth year month ≤ 31 := by
  unfold daysInMonth
  split <;> first | (split <;> decide) | decide

section Cycles

variable {a b c d : Nat} (hb : b ≤ 3) (hc : c ≤ 24) (hd : d ≤ 3)
include hb hc hd

/-- The days before a year, by its cycles of 400, 100, 4 and one years. -/
theorem daysBeforeYear_cycles :
    daysBeforeYear (400 * a + 100 * b + 4 * c + d + 1) =
      146097 * a + 36524 * b + 1461 * c + 365 * d := by
  have h4 : (400 * a + 100 * b + 4 * c + d) / 4 = 100 * a + 25 * b + c := by omega
  have h100 : (400 * a + 100 * b + 4 * c + d) / 100 = 4 * a + b := by omega
  have h400 : (400 * a + 100 * b + 4 * c + d) / 400 = a := by omega
  simp only [daysBeforeYear, Nat.add_sub_cancel, h4, h100, h400]
  omega

/-- The leap years end a cycle of four years, and if they end one of 100 years, one of 400 too. -/
theorem isLeapYear_cycles :
    isLeapYear (400 * a + 100 * b + 4 * c + d + 1) = true ↔ d = 3 ∧ (c = 24 → b = 3) := by
  have h4 : (400 * a + 100 * b + 4 * c + d + 1) % 4 = 0 ↔ d = 3 := by omega
  have h100 : (400 * a + 100 * b + 4 * c + d + 1) % 100 = 0 ↔ c = 24 ∧ d = 3 := by omega
  have h400 : (400 * a + 100 * b + 4 * c + d + 1) % 400 = 0 ↔ b = 3 ∧ c = 24 ∧ d = 3 := by omega
  simp only [isLeapYear, Bool.and_eq_true, Bool.or_eq_true, beq_iff_eq, bne_iff_ne, ne_eq, h4, h100,
    h400]
  omega

end Cycles

namespace CalendarDate

/-- A day falls into the year that is found for it. -/
theorem yearOfDay_spec
    (n : Nat) :
    1 ≤ yearOfDay n ∧ daysBeforeYear (yearOfDay n) ≤ n ∧
      n < daysBeforeYear (yearOfDay n) + daysInYear (yearOfDay n) := by
  obtain ⟨a, ha⟩ : ∃ a, a = n / 146097 := ⟨_, rfl⟩
  obtain ⟨b, hb⟩ : ∃ b, b = min (n % 146097 / 36524) 3 := ⟨_, rfl⟩
  obtain ⟨c, hc⟩ : ∃ c, c = (n % 146097 - b * 36524) / 1461 := ⟨_, rfl⟩
  obtain ⟨d, hd⟩ : ∃ d, d = min ((n % 146097 - b * 36524) % 1461 / 365) 3 := ⟨_, rfl⟩
  have hyear : yearOfDay n = 400 * a + 100 * b + 4 * c + d + 1 := by
    simp only [yearOfDay, ← ha, ← hb, ← hc, ← hd]
  have hb_le : b ≤ 3 := by omega
  have hd_le : d ≤ 3 := by omega
  -- the rests of the day in its cycles, each shorter than the cycle but for a last leap day
  obtain ⟨r, hr⟩ : ∃ r, r = n % 146097 - b * 36524 := ⟨_, rfl⟩
  rw [← hr] at hc hd
  have hn : n = 146097 * a + 36524 * b + r := by omega
  have hr_lt : r < 36524 ∨ (r = 36524 ∧ b = 3) := by omega
  have hc_le : c ≤ 24 := by omega
  obtain ⟨e, he⟩ : ∃ e, e = r % 1461 - 365 * d := ⟨_, rfl⟩
  have hr_eq : r = 1461 * c + 365 * d + e := by omega
  have he_lt : e < 365 ∨ (e = 365 ∧ d = 3) := by omega
  have hleap := isLeapYear_cycles (a := a) hb_le hc_le hd_le
  rw [hyear, daysInYear, daysBeforeYear_cycles hb_le hc_le hd_le]
  refine ⟨by omega, by omega, ?_⟩
  by_cases hlast : d = 3 ∧ (c = 24 → b = 3)
  · rw [if_pos (hleap.mpr hlast)]
    omega
  · rw [if_neg (fun h => hlast (hleap.mp h))]
    omega

theorem daysBeforeMonth_one (year : Nat) : daysBeforeMonth year 1 = 0 := rfl

theorem daysBeforeMonth_succ
    (year : Nat)
    {month : Nat}
    (h : 1 ≤ month) :
    daysBeforeMonth year (month + 1) = daysBeforeMonth year month + daysInMonth year month := by
  obtain ⟨m, rfl⟩ : ∃ m, month = m + 1 := ⟨month - 1, by omega⟩
  simp [daysBeforeMonth, List.range_succ]

theorem daysBeforeMonth_thirteen
    (year : Nat) :
    daysBeforeMonth year 13 = daysInYear year := by
  simp only [daysBeforeMonth, daysInYear, List.range, List.range.loop, daysInMonth]
  split <;> rfl

/-- A day counted from the first of a month falls into the month that is found for it, where the
year still has that many days. -/
theorem monthOfDay_spec
    (year : Nat)
    (fuel : Nat) :
    ∀ {month n : Nat}, 1 ≤ month → month + fuel = 12 →
      daysBeforeMonth year month + n < daysInYear year →
      ∃ m d, monthOfDay year n month fuel = (m, d + 1) ∧ 1 ≤ m ∧ m ≤ 12 ∧
        d < daysInMonth year m ∧
        daysBeforeMonth year m + d = daysBeforeMonth year month + n := by
  induction fuel with
  | zero =>
    intro month n hone hmonth hn
    obtain rfl : month = 12 := hmonth
    have hlast := daysBeforeMonth_succ year hone
    rw [daysBeforeMonth_thirteen] at hlast
    exact ⟨12, n, rfl, hone, by decide, by omega, rfl⟩
  | succ fuel ih =>
    intro month n hone hmonth hn
    by_cases hlt : n < daysInMonth year month
    · exact ⟨month, n, by simp [monthOfDay, hlt], hone, by omega, hlt, rfl⟩
    · have hnext := daysBeforeMonth_succ year hone
      obtain ⟨m, d, hfound, hm, hm', hd, hsum⟩ :=
        @ih (month + 1) (n - daysInMonth year month) (by omega) (by omega) (by omega)
      exact ⟨m, d, by simp [monthOfDay, hlt, hfound], hm, hm', hd, by omega⟩

theorem yearOfDay_le_lastYear
    {n : Nat}
    (h : n < calendarDays) :
    yearOfDay n ≤ lastYear := by
  simp only [yearOfDay, calendarDays, lastYear] at h ⊢
  omega

/-- A day of the calendar is taken apart into a date that has the number of the day. -/
theorem exists_partsOfDay
    {n : Nat}
    (h : n < calendarDays) :
    ∃ d : CalendarDate, partsOfDay n = (d.year, d.month, d.day) ∧ d.dayNumber = n := by
  obtain ⟨hyear, hstart, hend⟩ := yearOfDay_spec n
  have hlast := yearOfDay_le_lastYear h
  obtain ⟨m, d, hfound, hm, hm', hd, hsum⟩ :=
    monthOfDay_spec (yearOfDay n) 11 (n := n - daysBeforeYear (yearOfDay n)) (Nat.le_refl 1) rfl
      (by rw [daysBeforeMonth_one]; omega)
  have hdate : isDate (yearOfDay n) m (d + 1) = true := by
    simp only [isDate, Bool.and_eq_true, decide_eq_true_eq]
    omega
  refine ⟨⟨yearOfDay n, m, d + 1, hdate⟩, by simp [partsOfDay, hfound], ?_⟩
  simp only [dayNumber, daysBeforeMonth_one] at hsum ⊢
  omega

/-- A day of the calendar is told by its date. -/
theorem eq_of_partsOfDay_eq
    {m n : Nat}
    (hm : m < calendarDays)
    (hn : n < calendarDays)
    (h : partsOfDay m = partsOfDay n) :
    m = n := by
  obtain ⟨d, hd, rfl⟩ := exists_partsOfDay hm
  obtain ⟨e, he, rfl⟩ := exists_partsOfDay hn
  rw [hd, he] at h
  cases d
  cases e
  cases h
  rfl

end CalendarDate
end RollupAudit
