/-!
# Categories

What part of a deployment a rule is about. The order of the categories is the order of a report.
-/

namespace RollupAudit

/-- The category of a rule. -/
inductive Category
  | sequencer
  | proposer
  | upgrade
  | withdrawal
  | anchor
  | oracle
  | bridge
  | dos
  | finality
  | governance
  | access
  | emergency
  | dataAvailability
  | proofSystem
  | gas
  | messaging
  | timestamp
  | aliasing
  | deployment
  | documentation
  deriving DecidableEq, Repr

namespace Category

/-- All categories in the order of a report. -/
def all : List Category := [
  .sequencer, .proposer, .upgrade, .withdrawal, .anchor, .oracle, .bridge, .dos, .finality,
  .governance, .access, .emergency, .dataAvailability, .proofSystem, .gas, .messaging, .timestamp,
  .aliasing, .deployment, .documentation]

/-- The place of a category in the order of a report. -/
def position (c : Category) : Nat := c.ctorIdx

/-- The name of a category. -/
def name : Category → String
  | .sequencer => "sequencer"
  | .proposer => "proposer"
  | .upgrade => "upgrade"
  | .withdrawal => "withdrawal"
  | .anchor => "anchor"
  | .oracle => "oracle"
  | .bridge => "bridge"
  | .dos => "dos"
  | .finality => "finality"
  | .governance => "governance"
  | .access => "access"
  | .emergency => "emergency"
  | .dataAvailability => "dataAvailability"
  | .proofSystem => "proofSystem"
  | .gas => "gas"
  | .messaging => "messaging"
  | .timestamp => "timestamp"
  | .aliasing => "aliasing"
  | .deployment => "deployment"
  | .documentation => "documentation"

/-- The category with a name. -/
def ofName? (s : String) : Option Category :=
  all.find? fun c => c.name == s

theorem mem_all (c : Category) : c ∈ all := by cases c <;> decide

theorem position_injective {c d : Category} (h : c.position = d.position) : c = d := by
  revert h; cases c <;> cases d <;> decide

@[simp] theorem ofName?_name (c : Category) : ofName? c.name = some c := by cases c <;> rfl

end Category
end RollupAudit
