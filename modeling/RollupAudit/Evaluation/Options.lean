import RollupAudit.Evaluation.TimeLimit
import RollupAudit.Rule.Basic

/-!
# Options of an evaluation

Which rules are evaluated, what is reported of them, whether they run side by side, and what can
end the evaluation early.
-/

namespace RollupAudit

/-- The options of an evaluation. -/
structure EvaluationOptions where
  /-- The categories of the rules to evaluate; none for all. -/
  categories : Option (List Category) := none
  /-- The ids of the rules to evaluate; none for all. -/
  ruleIds : Option (List String) := none
  minSeverity : Severity := .info
  parallel : Bool := false
  /-- The greatest number of rules that run at one time; none for no bound. -/
  maxWorkers : Option Int := none
  timeLimit : Option TimeLimit := none
  /-- Whether the caller has cancelled already; none if the evaluation cannot be cancelled. -/
  cancelled : Option Bool := none

/-- Why an evaluation gave no report. -/
inductive EvaluationError
  /-- An integer of the facts has too many digits for a reference. -/
  | tooManyDigits
  | cancelled
  | timedOut (limit : Option TimeLimit)
  /-- No rule may run. -/
  | noWorkers
  /-- An error left the run of a rule. -/
  | escaped (e : EscapedError)
  deriving DecidableEq

/-- The wording of an error. -/
def EvaluationError.message : EvaluationError → String
  | .tooManyDigits => Text.tooManyDigitsMessage
  | .cancelled => "Evaluation cancelled by caller"
  | .timedOut limit =>
    "Evaluation timed out after " ++ limit.elim "None" TimeLimit.shown ++ " seconds"
  | .noWorkers => "max_workers must be greater than 0"
  | .escaped e => e.message

namespace EvaluationOptions

/-- Whether a rule is evaluated. -/
def selects (o : EvaluationOptions) (r : Rule) : Bool :=
  (o.categories.all fun cs => cs.contains r.category) && (o.ruleIds.all fun ids => ids.contains r.id)

/-- Whether a number of rules runs side by side within a limit that cannot be waited for. -/
def isBeyondWaiting (o : EvaluationOptions) (rules : Nat) : Bool :=
  o.parallel && 1 < rules && (o.maxWorkers.all fun n => 0 < n) &&
    o.timeLimit.any TimeLimit.isBeyondWaiting

/-- Whether the evaluation can be cancelled. -/
def isCancellable (o : EvaluationOptions) : Bool := o.cancelled.isSome

/-- Whether the caller has cancelled before the start. -/
def isCancelled (o : EvaluationOptions) : Bool := o.cancelled.getD false

/-- Whether the time is over, where more of it than any limit allows has passed or not. -/
def isLate (o : EvaluationOptions) (outlasted : Bool) : Bool :=
  o.timeLimit.any fun l => l.isOverAfter outlasted

end EvaluationOptions
end RollupAudit
