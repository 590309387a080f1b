import RollupAudit.Report.Outcome
import RollupAudit.Time.Duration

/-!
# Checks

A check looks at the facts with the constants of its rule and gives an outcome. Three faults can keep
it from one: an integer with too many digits to be shown, a product that overflows, and a duration
that cannot be held. What no facts can settle is left to an outside audit.
-/

namespace RollupAudit

/-- What can keep a check from an outcome. -/
inductive CheckFault
  | tooManyDigits
  | overflow
  | duration (days : Int)
  deriving DecidableEq, Repr

/-- The fault of a check that a fault of a duration is. -/
def CheckFault.ofDuration : DurationFault → CheckFault
  | .days count => .duration count
  | .tooManyDigits => .tooManyDigits

/-- What a check gives. -/
abbrev CheckResult := Except CheckFault Outcome

/-- A duration that a check goes on with. -/
def heldDuration (d : Duration) : Except CheckFault Duration :=
  d.checked.mapError .ofDuration

/-- The text of a number of seconds. -/
def shownSeconds (n : Nat) : Except CheckFault String :=
  (secondsText n).mapError .ofDuration

/-- The text of an integer. -/
def shownInt (n : Int) : Except CheckFault String :=
  match Text.intText? n with
  | some s => .ok s
  | none => .error .tooManyDigits

/-- A statement that someone has to attest. No facts settle it: the outcome is always inconclusive. -/
def Check.attestation (statement : String) : Outcome :=
  .inconclusive ("requires external attestation: " ++ statement)

end RollupAudit
