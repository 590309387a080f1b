/-!
# Severities

How much a finding matters, from information to critical.
-/

namespace RollupAudit

/-- The severity of a finding. -/
inductive Severity
  | info
  | low
  | medium
  | high
  | critical
  deriving DecidableEq, Repr

namespace Severity

/-- All severities, ascending. -/
def all : List Severity := [.info, .low, .medium, .high, .critical]

/-- All severities, the most severe first. -/
def descending : List Severity := [.critical, .high, .medium, .low, .info]

/-- The position of a severity in ascending order. -/
def rank : Severity → Nat
  | .info => 0
  | .low => 1
  | .medium => 2
  | .high => 3
  | .critical => 4

/-- Whether a severity is as high as another. -/
def atLeast (s t : Severity) : Bool := t.rank ≤ s.rank

/-- The name of a severity. -/
def name : Severity → String
  | .info => "info"
  | .low => "low"
  | .medium => "medium"
  | .high => "high"
  | .critical => "critical"

/-- The severity with a name. -/
def ofName? (s : String) : Option Severity :=
  all.find? fun t => t.name == s

theorem mem_all (s : Severity) : s ∈ all := by cases s <;> decide

theorem rank_injective {s t : Severity} (h : s.rank = t.rank) : s = t := by
  cases s <;> cases t <;> simp_all [rank]

@[simp] theorem ofName?_name (s : Severity) : ofName? s.name = some s := by cases s <;> rfl

theorem atLeast_iff {s t : Severity} : s.atLeast t = true ↔ t.rank ≤ s.rank := by
  simp [atLeast]

end Severity
end RollupAudit
