import RollupAudit.Check.Basic
import RollupAudit.Facts.Basic
import RollupAudit.Number.DecimalArithmetic
import RollupAudit.Number.DecimalText

/-!
# Checks of withdrawals

Withdrawals are not delayed too long, are covered by liquidity, do not depend on the operator, and
are not suspended.
-/

namespace RollupAudit
namespace Check

/-- The withdrawal delay is at most a maximum. -/
def withdrawalDelay (maximumSeconds : Nat) (f : Facts) : CheckResult :=
  match f.withdrawal.bind WithdrawalFacts.delaySeconds with
  | none => .ok (.notApplicable "Withdrawal delay not present in facts.")
  | some delay =>
    if maximumSeconds < delay then do
      let shown ← shownSeconds delay
      let maximum ← shownSeconds maximumSeconds
      return .fail ("withdrawal delay of " ++ shown ++ " exceeds the " ++ maximum ++ " maximum")
    else .ok .passed

/-- The liquidity covers the pending withdrawals times a ratio. -/
def withdrawalLiquidity (ratio : Decimal) (f : Facts) : CheckResult :=
  match f.withdrawal.bind WithdrawalFacts.liquidity with
  | none => .ok (.notApplicable "Withdrawal liquidity not present in facts.")
  | some liquidity =>
    match f.withdrawal.bind WithdrawalFacts.pendingTotal with
    | none => .ok (.notApplicable "Pending withdrawal total not present in facts.")
    | some pending =>
      match pending.mul? ratio with
      | none => .error .overflow
      | some required =>
        if liquidity.compare required = .lt then
          .ok (.fail ("withdrawal liquidity " ++ liquidity.text ++
            " does not cover pending withdrawals " ++ pending.text ++
            " (required " ++ required.text ++ ")"))
        else .ok .passed

/-- An escape hatch is enabled. -/
def escapeHatch (f : Facts) : Outcome :=
  match f.withdrawal.bind WithdrawalFacts.escapeHatch with
  | none => .notApplicable "Escape hatch setting not present in facts."
  | some true => .passed
  | some false => .fail "escape hatch is disabled; withdrawals depend on the operator"

/-- The emergency mode is not active. -/
def emergencyMode (f : Facts) : Outcome :=
  match f.withdrawal.bind WithdrawalFacts.emergencyMode with
  | none => .notApplicable "Emergency mode flag not present in facts."
  | some true => .fail "emergency mode is active; normal withdrawals are suspended"
  | some false => .passed

end Check
end RollupAudit
