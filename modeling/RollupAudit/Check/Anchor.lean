import RollupAudit.Check.Age
import RollupAudit.Check.Basic

/-!
# Checks of the anchor

The anchored state root is fresh, and comes from a registry that is trusted.
-/

namespace RollupAudit
namespace Check

def noAnchor : Outcome := .notApplicable "No anchor metadata in facts."

/-- The anchored root is not older than a bound. -/
def anchorFreshness (boundSeconds : Nat) (f : Facts) : CheckResult :=
  match f.anchor with
  | none => .ok noAnchor
  | some anchor => do
    match ← f.ageOf anchor.timestamp boundSeconds with
    | .ahead lead =>
      return .inconclusive ("anchor timestamp is " ++ lead.text ++ " later than the observation time")
    | .overdue age bound =>
      let excess ← heldDuration (age - bound)
      return .fail ("anchor root exceeds freshness bound by " ++ excess.text)
    | .recent age => return .passed ("anchor root is " ++ age.text ++ " old")

/-- The names of trusted registries without outer blanks and in small letters. -/
def trustedNames (registries : List String) : List String :=
  registries.map fun name => Text.lower (Text.strip name)

/-- The source registry is recorded, and is trusted if there is a list of trusted ones. -/
def anchorSource (registries : List String) (f : Facts) : Outcome :=
  match f.anchor with
  | none => noAnchor
  | some anchor =>
    if anchor.sourceRegistry.isEmpty then .fail "anchor source registry is not recorded"
    else if !registries.isEmpty &&
        !(trustedNames registries).contains (Text.lower anchor.sourceRegistry) then
      .fail ("anchor source registry '" ++ anchor.sourceRegistry ++ "' is not in the trusted set")
    else .passed ("anchor sourced from '" ++ anchor.sourceRegistry ++ "'")

end Check
end RollupAudit
