import RollupAudit.Check.Basic
import RollupAudit.Facts.Basic
import RollupAudit.Number.Binary64Text

/-!
# Checks of quantities

Parameters that are quantities, compared exactly with an integer. A flag is not a quantity, nor is
a text, an infinity or what is not a number.
-/

namespace RollupAudit

/-- A finite number: an integer, or the floating-point number with a sign and a rank. -/
inductive Quantity
  | int (n : Int)
  | float (negative : Bool) (rank : Fin finiteRanks)
  deriving DecidableEq

namespace Quantity

/-- The order of a quantity and an integer, compared exactly. -/
def compareInt : Quantity → Int → Ordering
  | .int m, n => compare m n
  | .float negative rank, n =>
    compare (Binary64.signedUnits negative rank) (n * Int.ofNat Binary64.unitsPerOne)

/-- The text of a quantity. -/
def shown : Quantity → Except CheckFault String
  | .int n => shownInt n
  | .float negative rank => .ok (Binary64.finite negative rank).text

/-- The text of a quantity with its digits in groups of three. -/
def shownGrouped : Quantity → Except CheckFault String
  | .int n => if Text.isWritable n then .ok (Text.groupedText n) else .error .tooManyDigits
  | .float negative rank => .ok (Binary64.finite negative rank).groupedText

end Quantity

namespace Check

/-- The quantity that a parameter is, or the outcome of the check if it is none. -/
def quantity (f : Facts) (name : String) : Quantity ⊕ Outcome :=
  match f.parameter? name with
  | none => .inr (.notApplicable ("Parameter '" ++ name ++ "' not present in facts."))
  | some (.int n) => .inl (.int n)
  | some (.float (.finite negative rank)) => .inl (.float negative rank)
  | some (.float x) =>
    .inr (.inconclusive ("parameter '" ++ name ++ "' is not a finite number: " ++ x.text))
  | some p => .inr (.inconclusive ("parameter '" ++ name ++ "' is not numeric: " ++ p.toValue.shown))

/-- The block gas limit is at most a maximum. -/
def blockGasLimit (name : String) (maximum : Nat) (f : Facts) : CheckResult :=
  match quantity f name with
  | .inr o => .ok o
  | .inl q =>
    if q.compareInt maximum = .gt then do
      let shown ← q.shownGrouped
      let most ← (Quantity.int maximum).shownGrouped
      return .fail ("block gas limit of " ++ shown ++ " exceeds the " ++ most ++ " gas maximum")
    else .ok .passed

/-- A limit of the transactions per sender is enforced, and is at most a maximum. -/
def txRateLimit (name : String) (maximum : Nat) (f : Facts) : CheckResult :=
  match quantity f name with
  | .inr o => .ok o
  | .inl q =>
    if q.compareInt 0 ≠ .gt then .ok (.fail "no per-sender transaction rate limit is enforced")
    else if q.compareInt maximum = .gt then do
      let shown ← q.shown
      let most ← shownInt maximum
      return .fail ("per-sender rate limit of " ++ shown ++ " transactions per block exceeds the " ++
        most ++ " maximum")
    else .ok .passed

/-- The number of confirmations is at least a minimum. -/
def confirmationDepth (name : String) (minimum : Nat) (f : Facts) : CheckResult :=
  match quantity f name with
  | .inr o => .ok o
  | .inl q =>
    if q.compareInt minimum = .lt then do
      let shown ← q.shown
      let least ← shownInt minimum
      return .fail ("L1 confirmation depth of " ++ shown ++ " blocks is below the " ++ least ++
        " block minimum")
    else .ok .passed

end Check
end RollupAudit
