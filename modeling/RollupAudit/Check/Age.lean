import RollupAudit.Check.Basic
import RollupAudit.Facts.Basic

/-!
# Ages

How an instant that the facts record stands to the observation and to a bound on its age: it is in
the future, too old, or recent enough.
-/

namespace RollupAudit

/-- The standing of a recorded instant. -/
inductive Age
  /-- Recorded later than the observation, by the given time. -/
  | ahead (lead : Duration)
  /-- Older than the bound. -/
  | overdue (age bound : Duration)
  /-- Not older than the bound. -/
  | recent (age : Duration)
  deriving DecidableEq

/-- The standing of an instant recorded in facts, under a bound on its age. -/
def Facts.ageOf (f : Facts) (recorded : Instant) (boundSeconds : Nat) : Except CheckFault Age :=
  let age := f.elapsedSince recorded
  if age < Duration.zero then (heldDuration (-age)).map .ahead
  else
    (heldDuration (.ofSeconds boundSeconds)).map fun bound =>
      if bound < age then .overdue age bound else .recent age

end RollupAudit
