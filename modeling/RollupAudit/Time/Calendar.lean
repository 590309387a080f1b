/-!
# Calendar dates

Dates of the Gregorian calendar from 0001-01-01 to 9999-12-31, numbered by the days since the first
one.
-/

namespace RollupAudit

/-- A year with a 29th of February. -/
def isLeapYear (year : Nat) : Bool :=
  year % 4 == 0 && (year % 100 != 0 || year % 400 == 0)

/-- The number of days of a month. -/
def daysInMonth (year month : Nat) : Nat :=
  match month with
  | 2 => if isLeapYear year then 29 else 28
  | 4 | 6 | 9 | 11 => 30
  | _ => 31

/-- The number of days from 0001-01-01 to the first day of a year. -/
def daysBeforeYear (year : Nat) : Nat :=
  let y := year - 1
  365 * y + y / 4 - y / 100 + y / 400

/-- The number of days of a year before a month. -/
def daysBeforeMonth (year month : Nat) : Nat :=
  (List.range (month - 1)).foldl (fun days m => days + daysInMonth year (m + 1)) 0

/-- The last year of the calendar. -/
def lastYear : Nat := 9999

/-- The number of days of the calendar. -/
def calendarDays : Nat := 3652059

/-- Whether year, month and day name a date of the calendar. -/
def isDate (year month day : Nat) : Bool :=
  1 ≤ year && year ≤ lastYear && 1 ≤ month && month ≤ 12 && 1 ≤ day && day ≤ daysInMonth year month

/-- A date of the calendar. -/
structure CalendarDate where
  year : Nat
  month : Nat
  day : Nat
  isDate_eq : isDate year month day = true
  deriving DecidableEq

/-- Why year, month and day are not a date. -/
inductive DateFault
  | year (given : Nat)
  | month
  | day
  deriving DecidableEq, Repr

/-- The wording of a fault. -/
def DateFault.message : DateFault → String
  | .year given => "year " ++ toString given ++ " is out of range"
  | .month => "month must be in 1..12"
  | .day => "day is out of range for month"

namespace CalendarDate

/-- The date with a year, month and day, or the first of them that is out of range. -/
def ofParts (year month day : Nat) : Except DateFault CalendarDate :=
  if h : isDate year month day then .ok ⟨year, month, day, h⟩
  else if year < 1 ∨ lastYear < year then .error (.year year)
  else if month < 1 ∨ 12 < month then .error .month
  else .error .day

/-- The number of days since 0001-01-01. -/
def dayNumber (d : CalendarDate) : Nat :=
  daysBeforeYear d.year + daysBeforeMonth d.year d.month + (d.day - 1)

/-- The year that holds a day, found from the cycles of 400, 100, 4 and one years. -/
def yearOfDay (n : Nat) : Nat :=
  let n400 := n / 146097
  let r400 := n % 146097
  let n100 := min (r400 / 36524) 3
  let r100 := r400 - n100 * 36524
  let n4 := r100 / 1461
  let r4 := r100 % 1461
  let n1 := min (r4 / 365) 3
  400 * n400 + 100 * n100 + 4 * n4 + n1 + 1

/-- The month of a year, from `month` on, that holds the day `n` counted from its first day, and
the day of that month. -/
def monthOfDay (year n : Nat) : Nat → Nat → Nat × Nat
  | month, 0 => (month, n + 1)
  | month, fuel + 1 =>
    if n < daysInMonth year month then (month, n + 1)
    else monthOfDay year (n - daysInMonth year month) (month + 1) fuel

/-- Year, month and day of a day number. -/
def partsOfDay (n : Nat) : Nat × Nat × Nat :=
  let year := yearOfDay n
  let (month, day) := monthOfDay year (n - daysBeforeYear year) 1 11
  (year, month, day)

/-- The day of the week, Monday being zero. -/
def weekday (d : CalendarDate) : Nat :=
  d.dayNumber % 7

end CalendarDate
end RollupAudit
