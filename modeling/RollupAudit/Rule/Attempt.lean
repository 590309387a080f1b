import RollupAudit.Check.Basic

/-!
# Attempts

A run of a rule's check: the outcome or the fault that kept it from one, and what the run does to
the evaluation that it is part of. A fault becomes an inconclusive outcome, so that it stays with
the rule that had it. For this the fault is put into words, and where that breaks down an error
leaves the run.
-/

namespace RollupAudit

/-- An error that leaves a run of a check. -/
structure EscapedError where
  kind : String
  message : String
  deriving DecidableEq, Repr

/-- Why a check gave no outcome. -/
inductive RuleFault
  /-- It broke down with an error of some kind. -/
  | raised (kind message : String)
  /-- It broke down with an error that cannot be put into words: with another error, if it is tried. -/
  | wordless (e : EscapedError)
  /-- A check of the library itself broke down. -/
  | check (fault : CheckFault)
  /-- What it gave is not an outcome. -/
  | notOutcome (kind : String)
  deriving DecidableEq, Repr

/-- The wording of a fault, or the error that it breaks down with. -/
def RuleFault.wording : RuleFault → Except EscapedError String
  | .raised kind message => .ok (kind ++ ": " ++ message)
  | .wordless e => .error e
  | .check .tooManyDigits => .ok ("ValueError: " ++ Text.tooManyDigitsMessage)
  | .check .overflow => .ok "Overflow: [<class 'decimal.Overflow'>]"
  | .check (.duration days) => .ok ("OverflowError: " ++ (DurationFault.days days).message)
  | .notOutcome kind => .ok ("rule returned " ++ kind ++ " instead of an Outcome")

/-- A run of a check. -/
structure Attempt where
  result : Except RuleFault Outcome
  /-- Whether the run cancels the evaluation. -/
  cancels : Bool := false
  /-- Whether the run lasts longer than any time limit. -/
  outlasts : Bool := false

namespace Attempt

/-- A run that gives an outcome and does nothing else. -/
def gives (o : Outcome) : Attempt := ⟨.ok o, false, false⟩

/-- A run that ends in a fault. -/
def faults (e : RuleFault) : Attempt := ⟨.error e, false, false⟩

/-- The run of a check of the library. -/
def ofCheck (r : CheckResult) : Attempt := ⟨r.mapError .check, false, false⟩

/-- What a run comes to: an outcome, which tells of an internal error if there was a fault, or the
error that leaves the run. -/
def conclusion (a : Attempt) : Except EscapedError Outcome :=
  match a.result with
  | .ok o => .ok o
  | .error e => e.wording.map .broken

/-- The error that leaves a run, if one does. -/
def escape? (a : Attempt) : Option EscapedError :=
  match a.conclusion with
  | .ok _ => none
  | .error e => some e

/-- The outcome of a run. A run that an error leaves has no outcome that an evaluation could use, and
tells of that error here. -/
def outcome (a : Attempt) : Outcome :=
  match a.conclusion with
  | .ok o => o
  | .error e => .broken e.message

/-- A run that no error leaves comes to its outcome. -/
theorem conclusion_eq_ok
    {a : Attempt}
    (h : a.escape? = none) :
    a.conclusion = .ok a.outcome := by
  unfold escape? at h
  unfold outcome
  split at h <;> simp_all

/-- A run that an error leaves comes to that error. -/
theorem conclusion_eq_error
    {a : Attempt} {e : EscapedError}
    (h : a.escape? = some e) :
    a.conclusion = .error e := by
  unfold escape? at h
  split at h <;> simp_all

end Attempt
end RollupAudit
