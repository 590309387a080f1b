import RollupAudit.Evaluation.Options
import RollupAudit.Evaluation.Pool
import RollupAudit.Facts.Canonical
import RollupAudit.Report.Aggregate
import RollupAudit.Rule.Registry

/-!
# Evaluation

The rules of a registry that the options select, run on one snapshot one by one or side by side, and
their outcomes gathered into a report. An evaluation that is cancelled or runs out of time gives no
report, and none where an error leaves the run of a rule: the first of such errors, in the order of
the rules, leaves the evaluation.
-/

namespace RollupAudit

/-- What goes on around an evaluation: when the caller cancels, how much time passes, and how the
workers of a pool go about their tasks. -/
structure Surroundings where
  /-- Whether the caller cancels before the rule with a number, of rules that run one by one. -/
  cancelsBefore : Nat → Bool := fun _ => false
  /-- Whether more time than a limit allows passes before the rule with a number, of rules that run one
  by one. -/
  outlastsBefore : Nat → Bool := fun _ => false
  /-- What happens in a pool with a number of tasks. -/
  events : Nat → List PoolEvent := PoolEvent.oneByOne

/-- A rule with its outcome. -/
structure Judgement where
  rule : Rule
  outcome : Outcome

namespace Judgement

/-- The judgement of a rule on facts. -/
def of (f : Facts) (r : Rule) : Judgement := ⟨r, r.run f⟩

/-- The judgement of a rule whose run came to a conclusion, or the error that left the run. -/
def ofConclusion (r : Rule) (c : Except EscapedError Outcome) : Except EvaluationError Judgement :=
  (c.map fun outcome => ⟨r, outcome⟩).mapError .escaped

/-- The finding that a judgement is reported as. -/
def finding? (j : Judgement) (reference : String) : Option Finding :=
  j.rule.finding? j.outcome reference

/-- How many judgements have each status. -/
def counts (js : List Judgement) : List (Status × Int) :=
  Status.all.map fun s => (s, Int.ofNat (js.countP fun j => j.outcome.status = s))

end Judgement

namespace Evaluation

/-- The report of judgements on a number of rules. -/
def report (o : EvaluationOptions) (reference : String) (rules : List Rule) (js : List Judgement) :
    Report :=
  aggregate (js.filterMap fun j => j.finding? reference) o.minSeverity (Int.ofNat rules.length)
    (Judgement.counts js)

/-- The judgements of rules that run one by one, from the one with a number on. Before each rule it
is seen whether the evaluation was cancelled or the time is over. An error that leaves a run ends all. -/
def sequentialFrom (o : EvaluationOptions) (s : Surroundings) (f : Facts) (number : Nat)
    (cancelled outlasted : Bool) : List Rule → Except EvaluationError (List Judgement)
  | [] => .ok []
  | r :: rs =>
    let cancelled := cancelled || (o.isCancellable && s.cancelsBefore number)
    let outlasted := outlasted || s.outlastsBefore number
    if cancelled then .error .cancelled
    else if o.isLate outlasted then .error (.timedOut o.timeLimit)
    else
      let a := r.attempt f
      match Judgement.ofConclusion r a.conclusion with
      | .error e => .error e
      | .ok j =>
        (sequentialFrom o s f (number + 1) (cancelled || (o.isCancellable && a.cancels))
          (outlasted || a.outlasts) rs).map (j :: ·)

/-- The judgements of rules that run one by one. -/
def sequential (o : EvaluationOptions) (s : Surroundings) (f : Facts) (rules : List Rule) :
    Except EvaluationError (List Judgement) :=
  sequentialFrom o s f 0 o.isCancelled false rules

/-- The rules of the tasks of a pool that ended, with their conclusions. -/
def conclusionsOf (p : Pool) : List (Rule × Except EscapedError Outcome) :=
  p.tasks.filterMap fun t => t.2.conclusion?.map fun c => (t.1, c)

/-- What a pool comes to after all its events. That the evaluation was cancelled is seen once all
tasks are over. The tasks are then gone through in their order, up to one that an error left. -/
def collect (limit : Option TimeLimit) (p : Pool) : Except EvaluationError (List Judgement) :=
  if !p.isOver then .error (.timedOut limit)
  else if p.cancelled then .error .cancelled
  else (conclusionsOf p).mapM fun t => Judgement.ofConclusion t.1 t.2

/-- The judgements of rules that run side by side. -/
def parallel (o : EvaluationOptions) (s : Surroundings) (f : Facts) (rules : List Rule) :
    Except EvaluationError (List Judgement) :=
  if o.maxWorkers.any fun n => n ≤ 0 then .error .noWorkers
  else if o.timeLimit.any TimeLimit.allowsNoWait then .error (.timedOut o.timeLimit)
  else
    let terms : PoolTerms :=
      { facts := f, cancellable := o.isCancellable, limited := o.timeLimit.isSome
        workers := o.maxWorkers.map Int.toNat }
    collect o.timeLimit ((Pool.ofRules rules o.isCancelled).steps terms (s.events rules.length))

/-- The judgements of rules. A rule that stands alone does not need a pool. -/
def judgements (o : EvaluationOptions) (s : Surroundings) (f : Facts) (rules : List Rule) :
    Except EvaluationError (List Judgement) :=
  if o.parallel && 1 < rules.length then parallel o s f rules else sequential o s f rules

end Evaluation

/-- The report of a registry on facts. -/
def evaluate (g : Registry) (f : Facts) (o : EvaluationOptions := {}) (s : Surroundings := {}) :
    Except EvaluationError Report :=
  match f.reference? with
  | none => .error .tooManyDigits
  | some reference =>
    let rules := g.rules.filter o.selects
    (Evaluation.judgements o s f rules).map (Evaluation.report o reference rules)

end RollupAudit
