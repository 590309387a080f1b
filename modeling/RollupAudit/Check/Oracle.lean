import RollupAudit.Check.Basic
import RollupAudit.Facts.Basic

/-!
# Checks of the oracle

A backup that is set and differs from the primary, a bound on the age of prices, and prices within
that bound.
-/

namespace RollupAudit
namespace Check

def noOracle : Outcome := .notApplicable "No oracle configuration in facts."

/-- The text of an optional address. -/
def addressText (a : Option Address) : String := a.elim "None" Address.text

/-- A backup oracle is set. -/
def oracleBackup (f : Facts) : Outcome :=
  match f.oracle with
  | none => noOracle
  | some oracle =>
    if Address.isUnset? oracle.backup then .fail "no backup oracle configured"
    else .passed ("backup oracle " ++ addressText oracle.backup)

/-- Primary and backup are different accounts. -/
def oracleDistinct (f : Facts) : Outcome :=
  match f.oracle with
  | none => notBoth
  | some oracle =>
    if Address.isUnset? oracle.primary || Address.isUnset? oracle.backup then notBoth
    else if oracle.primary = oracle.backup then
      .fail ("backup oracle is the same address as the primary (" ++ addressText oracle.primary ++ ")")
    else .passed
where
  notBoth : Outcome :=
    .notApplicable "Primary and backup oracle addresses not both present in facts."

/-- The oracle has a freshness bound, not longer than a maximum. -/
def oracleFreshnessBound (maximumSeconds : Nat) (f : Facts) : CheckResult :=
  match f.oracle with
  | none => .ok noOracle
  | some oracle =>
    match oracle.freshnessBoundSeconds with
    | none => .ok (.fail "oracle has no freshness bound configured")
    | some bound =>
      if maximumSeconds < bound then do
        let shown ← shownSeconds bound
        let maximum ← shownSeconds maximumSeconds
        return .fail ("oracle freshness bound of " ++ shown ++ " exceeds the " ++ maximum ++
          " maximum")
      else .ok .passed

/-- The seconds of a duration as a floating-point number. -/
def floatSeconds (d : Duration) : Binary64 :=
  Binary64.ofQuotient d.isNegative d.micros.natAbs Duration.microsPerSecond

/-- The last update is within the oracle's own freshness bound. -/
def oracleStaleness (f : Facts) : CheckResult :=
  match f.oracle with
  | none => .ok notKnown
  | some oracle =>
    match oracle.lastUpdate, oracle.freshnessBoundSeconds with
    | some update, some bound =>
      let age := f.elapsedSince update
      if age < Duration.zero then do
        let lead ← heldDuration (-age)
        return .inconclusive ("oracle update time is " ++ lead.text ++
          " later than the observation time")
      else if (floatSeconds age).compareInt? bound = some .gt then do
        let shown ← shownSeconds bound
        return .fail ("oracle last updated " ++ age.text ++ " ago, exceeding its " ++ shown ++
          " freshness bound")
      else .ok .passed
    | _, _ => .ok notKnown
where
  notKnown : Outcome :=
    .notApplicable "Oracle update time or freshness bound not present in facts."

end Check
end RollupAudit
