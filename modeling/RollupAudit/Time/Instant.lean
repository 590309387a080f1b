import RollupAudit.Time.Calendar
import RollupAudit.Time.Duration

/-!
# Instants

Points in time from the start of the year 1 to the end of the year 9999, to the microsecond.
-/

namespace RollupAudit

/-- The number of microseconds of the calendar. -/
def calendarMicros : Nat := calendarDays * Duration.microsPerDay

/-- A point in time as the microseconds since the start of the year 1. -/
structure Instant where
  micros : Nat
  micros_lt : micros < calendarMicros
  deriving DecidableEq

/-- A time of day to the microsecond. -/
structure ClockTime where
  hour : Nat
  minute : Nat
  second : Nat
  micro : Nat
  deriving DecidableEq, Repr

/-- Why numbers are not a time of day. -/
inductive ClockFault
  | hour
  | minute
  | second
  deriving DecidableEq, Repr

/-- The wording of a fault. -/
def ClockFault.message : ClockFault → String
  | .hour => "hour must be in 0..23"
  | .minute => "minute must be in 0..59"
  | .second => "second must be in 0..59"

namespace ClockTime

/-- The start of the day. -/
def midnight : ClockTime := ⟨0, 0, 0, 0⟩

/-- The first of hour, minute and second that is out of range. -/
def fault? (t : ClockTime) : Option ClockFault :=
  if 23 < t.hour then some .hour
  else if 59 < t.minute then some .minute
  else if 59 < t.second then some .second
  else none

/-- The microseconds since the start of the day. -/
def micros (t : ClockTime) : Nat :=
  (t.hour * Duration.secondsPerHour + t.minute * Duration.secondsPerMinute + t.second) *
    Duration.microsPerSecond + t.micro

/-- The time of day a number of microseconds after the start of the day. -/
def ofMicros (n : Nat) : ClockTime :=
  let seconds := n / Duration.microsPerSecond
  ⟨seconds / 3600, seconds / 60 % 60, seconds % 60, n % Duration.microsPerSecond⟩

end ClockTime

namespace Instant

/-- The instant a number of microseconds after the start of the year 1, if the calendar holds it. -/
def ofMicros? (n : Int) : Option Instant :=
  if h : 0 ≤ n ∧ n.toNat < calendarMicros then some ⟨n.toNat, h.2⟩ else none

/-- The instant of a date and a time of day, if the time of day is in order. -/
def ofClock? (d : CalendarDate) (t : ClockTime) : Option Instant :=
  ofMicros? (d.dayNumber * Duration.microsPerDay + t.micros)

/-- The time from one instant to another. -/
def sub (a b : Instant) : Duration := ⟨(a.micros : Int) - b.micros⟩

instance : HSub Instant Instant Duration := ⟨sub⟩

@[simp] theorem micros_hsub (a b : Instant) : (a - b).micros = (a.micros : Int) - b.micros := rfl

/-- The instant a number of microseconds later, if the calendar holds it. -/
def shift? (a : Instant) (by_ : Int) : Option Instant := ofMicros? (a.micros + by_)

/-- Year, month and day of an instant. -/
def date (a : Instant) : Nat × Nat × Nat :=
  CalendarDate.partsOfDay (a.micros / Duration.microsPerDay)

/-- The time of day of an instant. -/
def clock (a : Instant) : ClockTime :=
  ClockTime.ofMicros (a.micros % Duration.microsPerDay)

/-- Hour, minute and second with colons. -/
def clockText (t : ClockTime) : List Char :=
  Text.paddedDigits 10 2 t.hour ++ ':' :: Text.paddedDigits 10 2 t.minute ++
    ':' :: Text.paddedDigits 10 2 t.second

/-- Year, month and day with hyphens. -/
def dateText (parts : Nat × Nat × Nat) : List Char :=
  Text.paddedDigits 10 4 parts.1 ++ '-' :: Text.paddedDigits 10 2 parts.2.1 ++
    '-' :: Text.paddedDigits 10 2 parts.2.2

/-- Six places of a second, unless they are zero. -/
def fractionText (micro : Nat) : List Char :=
  if micro = 0 then [] else '.' :: Text.paddedDigits 10 6 micro

/-- Date and time of day with the letter T between them. -/
def isoText (a : Instant) : List Char :=
  dateText a.date ++ 'T' :: clockText a.clock ++ fractionText a.clock.micro

/-- The text of an instant with the mark Z of universal time. -/
def utcText (a : Instant) : String :=
  String.ofList (a.isoText ++ ['Z'])

/-- The text of an instant with the universal offset in digits. -/
def offsetText (a : Instant) : String :=
  String.ofList a.isoText ++ "+00:00"

/-- The name of the directory of an instant: to the second, with no colons and no padding of the
year. -/
def directoryName (a : Instant) : String :=
  let (year, month, day) := a.date
  let t := a.clock
  String.ofList (Nat.toDigits 10 year ++ '-' :: Text.paddedDigits 10 2 month ++
    '-' :: Text.paddedDigits 10 2 day ++ 'T' :: Text.paddedDigits 10 2 t.hour ++
    Text.paddedDigits 10 2 t.minute ++ Text.paddedDigits 10 2 t.second ++ ['Z'])

/-- The part of a file name that tells an instant: to the second, in digits only. -/
def fileStamp (a : Instant) : String :=
  let (year, month, day) := a.date
  let t := a.clock
  String.ofList (Nat.toDigits 10 year ++ Text.paddedDigits 10 2 month ++
    Text.paddedDigits 10 2 day ++ 'T' :: Text.paddedDigits 10 2 t.hour ++
    Text.paddedDigits 10 2 t.minute ++ Text.paddedDigits 10 2 t.second ++ ['Z'])

end Instant
end RollupAudit
