import RollupAudit.Check.Age
import RollupAudit.Check.Basic

/-!
# Checks of sequencers and proposers

Failover to a backup, recent activity, rotation, and the inclusion of transactions that a sequencer
withholds.
-/

namespace RollupAudit
namespace Check

/-- A backup is configured that is set and not one of the primary addresses. -/
def failover (role : String) : Option OperatorFacts → Outcome
  | none => .notApplicable ("No " ++ role ++ " configuration in facts.")
  | some o =>
    let count := o.configuredBackups.length
    if count ≠ 0 then .passed (toString count ++ " backup " ++ role ++ " address(es) configured")
    else if o.backups.isEmpty then .fail ("no backup " ++ role ++ " configured")
    else
      .fail ("backup " ++ role ++ " addresses are unset or duplicate the primary " ++ role ++ " set")

/-- The last activity is not longer ago than a bound. -/
def liveness (role : String) (boundSeconds : Nat) (f : Facts) (o : Option OperatorFacts) :
    CheckResult :=
  match o.bind OperatorFacts.lastActivity with
  | none => .ok (.notApplicable ("No " ++ role ++ " activity timestamp in facts."))
  | some moment => do
    match ← f.ageOf moment boundSeconds with
    | .ahead lead =>
      return .inconclusive (role ++ " last activity is " ++ lead.text ++
        " later than the observation time")
    | .overdue age bound =>
      return .fail (role ++ " inactive for " ++ age.text ++ ", exceeding the " ++ bound.text ++
        " liveness bound")
    | .recent age => return .passed (role ++ " last active " ++ age.text ++ " ago")

def sequencerFailover (f : Facts) : Outcome := failover "sequencer" f.sequencer

def sequencerLiveness (boundSeconds : Nat) (f : Facts) : CheckResult :=
  liveness "sequencer" boundSeconds f f.sequencer

/-- A rotation policy that says there is none. -/
def isNoPolicy (policy : String) : Bool := policy.isEmpty || policy == "none"

/-- A sequencer that stands alone has a rotation policy. -/
def sequencerRotation (f : Facts) : Outcome :=
  match f.sequencer with
  | none => noPolicyKnown
  | some s =>
    match s.rotationPolicy with
    | none => noPolicyKnown
    | some policy =>
      if isNoPolicy policy && s.activeCount ≤ 1 then
        .fail "single sequencer with no rotation policy"
      else
        .passed ("rotation policy '" ++ policy ++ "' over " ++ toString s.activeCount ++
          " sequencer(s)")
where
  noPolicyKnown : Outcome := .notApplicable "Sequencer rotation policy not present in facts."

/-- Users can force transactions in. -/
def sequencerForceInclusion (f : Facts) : Outcome :=
  match f.sequencer.bind OperatorFacts.forceInclusion with
  | none => .notApplicable "Force inclusion setting not present in facts."
  | some true => .passed
  | some false =>
    .fail "force inclusion through L1 is disabled; the sequencer can censor transactions"

/-- Anyone may propose as a fallback, or a backup proposer is configured. -/
def proposerFailover (f : Facts) : Outcome :=
  if f.proposer.bind OperatorFacts.permissionlessFallback = some true then
    .passed "permissionless proposing is available as a fallback"
  else failover "proposer" f.proposer

def proposerLiveness (boundSeconds : Nat) (f : Facts) : CheckResult :=
  liveness "proposer" boundSeconds f f.proposer

end Check
end RollupAudit
