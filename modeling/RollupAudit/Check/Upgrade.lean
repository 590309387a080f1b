import RollupAudit.Check.Basic
import RollupAudit.Facts.Basic

/-!
# Checks of upgrades

Users have time to leave before an upgrade takes effect: a minimum delay, one no shorter than a
withdrawal takes, notice of pending upgrades, and an admin that is not one party alone.
-/

namespace RollupAudit
namespace Check

def noUpgradeDelay : Outcome := .notApplicable "Upgrade delay not present in facts."

/-- The upgrade delay is at least a minimum; far below it, the outcome is critical. -/
def exitWindow (minimumSeconds criticalSeconds : Nat) (f : Facts) : CheckResult :=
  match f.upgrade.bind UpgradeFacts.delaySeconds with
  | none => .ok noUpgradeDelay
  | some delay => do
    let shown ← shownSeconds delay
    if minimumSeconds ≤ delay then
      return .passed ("upgrade delay of " ++ shown ++ " meets the minimum exit window")
    let minimum ← shownSeconds minimumSeconds
    let severity := if delay < criticalSeconds then Severity.critical else Severity.high
    return .fail ("upgrade delay of " ++ shown ++ " is below the " ++ minimum ++
      " minimum exit window") (some severity)

/-- The upgrade delay is at least the withdrawal delay. -/
def exitWindowCoversWithdrawal (f : Facts) : CheckResult :=
  match f.upgrade.bind UpgradeFacts.delaySeconds with
  | none => .ok noUpgradeDelay
  | some upgrade =>
    match f.withdrawal.bind WithdrawalFacts.delaySeconds with
    | none => .ok (.notApplicable "Withdrawal delay not present in facts.")
    | some withdrawal =>
      if upgrade < withdrawal then do
        let shown ← shownSeconds upgrade
        let needed ← shownSeconds withdrawal
        return .fail ("upgrade delay of " ++ shown ++ " is shorter than the withdrawal delay of " ++
          needed ++ "; users cannot exit before an upgrade lands")
      else .ok .passed

/-- A pending upgrade that is scheduled activates later than the observation, with enough notice. -/
def scheduledActivation (noticeSeconds : Nat) (pending : Address) (remaining : Duration) :
    CheckResult :=
  if remaining ≤ Duration.zero then do
    let since ← heldDuration (-remaining)
    return .inconclusive ("activation time for pending implementation " ++ pending.text ++
      " passed " ++ since.text ++ " ago but it is still pending")
  else do
    let notice ← heldDuration (.ofSeconds noticeSeconds)
    if remaining < notice then
      return .fail ("pending implementation " ++ pending.text ++ " activates in " ++
        remaining.text ++ ", less than the " ++ notice.text ++ " notice period")
    return .passed ("pending implementation " ++ pending.text ++ " activates in " ++ remaining.text)

/-- A pending upgrade is scheduled, and with enough notice. -/
def pendingActivation (noticeSeconds : Nat) (f : Facts) : CheckResult :=
  match f.upgrade with
  | none => .ok (.notApplicable "No upgrade configuration in facts.")
  | some upgrade =>
    match upgrade.pendingImplementation with
    | none => .ok (.passed "No pending implementation.")
    | some pending =>
      if pending.isUnset then .ok (.passed "No pending implementation.")
      else
        match upgrade.scheduledActivation with
        | none =>
          .ok (.fail ("pending implementation " ++ pending.text ++
            " has no scheduled activation time") (some .high))
        | some scheduled => scheduledActivation noticeSeconds pending (scheduled - f.observedAt)

/-- The words for an admin: the address, or the role if it is absent or blank. -/
def adminText : Option Address → String
  | some (.account n) => (Address.account n).text
  | _ => "upgrade admin"

/-- The upgrade admin is a multisig. -/
def adminMultisig (f : Facts) : Outcome :=
  match f.upgrade with
  | none => notKnown
  | some upgrade =>
    match upgrade.adminIsMultisig with
    | none => notKnown
    | some true => .passed
    | some false => .fail (adminText upgrade.admin ++ " controls upgrades and is not a multisig")
where
  notKnown : Outcome := .notApplicable "Upgrade admin type not present in facts."

end Check
end RollupAudit
