import RollupAudit.Report.Severity
import RollupAudit.Validation.Fields

/-!
# Outcomes

What one rule says about one snapshot: a status with its grounds, and for this outcome alone a
severity in place of the rule's.
-/

namespace RollupAudit

/-- The status of an outcome. -/
inductive Status
  | pass
  | fail
  | notApplicable
  | inconclusive
  deriving DecidableEq, Repr

/-- The statuses that a finding can report. -/
inductive Verdict
  | fail
  | inconclusive
  deriving DecidableEq, Repr

/-- A verdict as a status. -/
def Verdict.status : Verdict → Status
  | .fail => .fail
  | .inconclusive => .inconclusive

namespace Status

/-- All statuses, in the order in which they are counted. -/
def all : List Status := [.pass, .fail, .notApplicable, .inconclusive]

/-- The name of a status. -/
def name : Status → String
  | .pass => "PASS"
  | .fail => "FAIL"
  | .notApplicable => "NOT_APPLICABLE"
  | .inconclusive => "INCONCLUSIVE"

/-- The status with a name. -/
def ofName? (s : String) : Option Status :=
  all.find? fun t => t.name == s

/-- The verdict of a status that a finding can report. -/
def verdict? : Status → Option Verdict
  | .fail => some .fail
  | .inconclusive => some .inconclusive
  | _ => none

theorem mem_all (s : Status) : s ∈ all := by cases s <;> decide

@[simp] theorem ofName?_name (s : Status) : ofName? s.name = some s := by cases s <;> rfl

@[simp] theorem verdict?_status (v : Verdict) : v.status.verdict? = some v := by cases v <;> rfl

end Status

/-- The result of one rule on one snapshot. -/
structure Outcome where
  status : Status
  detail : String := ""
  /-- The severity of this outcome, in place of the rule's. -/
  severity : Option Severity := none
  internalError : Bool := false
  deriving DecidableEq, Repr

namespace Outcome

def passed (detail : String := "") : Outcome := ⟨.pass, detail, none, false⟩

def fail (detail : String) (severity : Option Severity := none) : Outcome :=
  ⟨.fail, detail, severity, false⟩

def notApplicable (detail : String) : Outcome := ⟨.notApplicable, detail, none, false⟩

def inconclusive (detail : String) (severity : Option Severity := none)
    (internalError : Bool := false) : Outcome :=
  ⟨.inconclusive, detail, severity, internalError⟩

/-- The outcome of a rule that broke down. -/
def broken (detail : String) : Outcome :=
  inconclusive ("internal error: " ++ detail) none true

/-- Whether the outcome is reported as a finding. -/
def producesFinding (o : Outcome) : Bool := o.status.verdict?.isSome

end Outcome

namespace Choice

variable {ε α : Type}

/-- One of named choices. -/
def read (names : List String) (ofName? : String → Option α) (v : Value) : Except Cause α :=
  match Scalar.readText v with
  | .ok s =>
    match ofName? s with
    | some a => .ok a
    | none => .error (.choice names)
  | .error _ => .error (.choice names)

/-- A severity by its name. -/
def severity (v : Value) : Checked ε Severity :=
  .ofExcept (read (Severity.all.map Severity.name) Severity.ofName? v)

/-- A status by its name. -/
def status (v : Value) : Checked ε Status :=
  .ofExcept (read (Status.all.map Status.name) Status.ofName? v)

end Choice

open Fields in
/-- The outcome that a document value denotes. -/
def Outcome.ofValue {ε : Type} : Value → Checked ε Outcome :=
  model "Outcome" fun es =>
    Outcome.mk <$> required es "status" Choice.status
      <*> optional es "detail" "" (scalar Scalar.readText)
      <*> field es "severity" Choice.severity
      <*> optional es "internal_error" false (scalar Scalar.readFlag)

end RollupAudit
