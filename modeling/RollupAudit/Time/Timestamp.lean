import RollupAudit.Time.Instant

/-!
# Timestamps

A date and time of day as a clock shows them, with the offset of the clock from universal time when
it is known. A clock reading of unknown offset counts as universal time.
-/

namespace RollupAudit

/-- A clock reading and the offset of the clock in microseconds, if known. -/
structure Timestamp where
  reading : Instant
  offset : Option Int
  deriving DecidableEq

namespace Timestamp

/-- The offset, or none for universal time. -/
def offsetMicros (t : Timestamp) : Int := t.offset.getD 0

/-- The microseconds of universal time since the start of the year 1; the calendar need not hold
them. -/
def utcMicros (t : Timestamp) : Int := t.reading.micros - t.offsetMicros

/-- The instant of a timestamp, if the calendar holds it. -/
def instant? (t : Timestamp) : Option Instant :=
  match t.offset with
  | none => some t.reading
  | some offset => t.reading.shift? (-offset)

/-- The timestamp of an instant in universal time. -/
def ofInstant (a : Instant) : Timestamp := ⟨a, some 0⟩

/-- The midnight that starts a date, of unknown offset. -/
def ofDate? (d : CalendarDate) : Option Timestamp :=
  (Instant.ofClock? d .midnight).map (⟨·, none⟩)

/-- The text of an offset: hours and minutes, and seconds and microseconds where not zero. -/
def offsetText (offset : Int) : List Char :=
  let n := offset.natAbs
  let seconds := n / Duration.microsPerSecond
  let micros := n % Duration.microsPerSecond
  (if offset < 0 then '-' else '+') :: Text.paddedDigits 10 2 (seconds / 3600) ++
    ':' :: Text.paddedDigits 10 2 (seconds / 60 % 60) ++
    (if seconds % 60 = 0 ∧ micros = 0 then []
      else ':' :: Text.paddedDigits 10 2 (seconds % 60) ++ Instant.fractionText micros)

/-- The text of a timestamp. -/
def text (t : Timestamp) : String :=
  String.ofList (t.reading.isoText ++ (t.offset.elim [] offsetText))

/-- A timestamp with an offset, the universal one if none is known. -/
def withOffset (t : Timestamp) : Timestamp :=
  ⟨t.reading, some t.offsetMicros⟩

end Timestamp

/-- The text of a date. -/
def CalendarDate.text (d : CalendarDate) : String :=
  String.ofList (Instant.dateText (d.year, d.month, d.day))

end RollupAudit
