import RollupAudit.Proofs.Evaluation.Schedule
import RollupAudit.Proofs.Rule.Configuration

/-!
# Judgements of an evaluation

An evaluation that nobody cancels and that has no time limit judges every selected rule, whether
the rules run one by one or side by side, unless an error leaves the run of a rule: then the first such
error, in the order of the rules, is all that comes of it. The judgements stand in the order of the
rules and are those of the rules alone: they do not depend on how the workers go about their tasks.

**Results.**
* `Evaluation.judged_eq_ok`, `Evaluation.judged_eq_error`: what rules come to on their own.
* `Evaluation.sequential_eq`, `Evaluation.parallel_eq`: the judgements of either way to run.
* `Evaluation.judgements_eq`: the judgements under options that choose one of the ways.
* `Evaluation.judgements_eq_noWorkers`: without a worker there are none.
-/

namespace RollupAudit

/-- The rules of a registry that options select. -/
def Registry.selected (g : Registry) (o : EvaluationOptions) : List Rule := g.rules.filter o.selects

namespace EvaluationOptions

/-- Whether a number of rules is to run side by side, but no worker may take one up. -/
def lacksWorkers (o : EvaluationOptions) (rules : Nat) : Bool :=
  o.parallel && 1 < rules && o.maxWorkers.any fun n => n ≤ 0

/-- Whether the events of a pool with a number of tasks are a schedule of them. -/
def schedules (o : EvaluationOptions) (s : Surroundings) (tasks : Nat) : Bool :=
  isSchedule tasks (o.maxWorkers.map Int.toNat) (s.events tasks)

/-- That nobody cancels an evaluation of rules: it cannot be cancelled, or neither the caller nor a
rule does so. -/
def Undisturbed (o : EvaluationOptions) (s : Surroundings) (f : Facts) (rules : List Rule) : Prop :=
  o.cancelled = none ∨
    o.cancelled = some false ∧ (∀ number, s.cancelsBefore number = false) ∧
      ∀ r ∈ rules, (r.attempt f).cancels = false

/-- A pool does not refuse a number of workers that is positive. -/
theorem any_le_zero_eq_false
    {o : EvaluationOptions}
    (hworkers : ∀ n, o.maxWorkers = some n → 0 < n) :
    (o.maxWorkers.any fun n => decide (n ≤ 0)) = false := by
  cases hmax : o.maxWorkers with
  | none => rfl
  | some n => simpa using hworkers n hmax

theorem maxWorkers_pos
    {o : EvaluationOptions} {rules : Nat}
    (hworkers : o.lacksWorkers rules = false)
    (hpool : (o.parallel && decide (1 < rules)) = true) :
    ∀ n, o.maxWorkers = some n → 0 < n := by
  intro n hn
  simpa [lacksWorkers, hpool, hn] using hworkers

end EvaluationOptions

namespace Evaluation

variable {o : EvaluationOptions} {s : Surroundings} {f : Facts} {rules : List Rule}

/-! ## Rules on their own -/

/-- The first error that leaves the run of one of the rules. -/
def escape? (f : Facts) (rules : List Rule) : Option EscapedError :=
  rules.findSome? fun r => (r.attempt f).escape?

/-- The judgements of rules, up to one whose run an error leaves. -/
def judged (f : Facts) (rules : List Rule) : Except EvaluationError (List Judgement) :=
  rules.mapM fun r => Judgement.ofConclusion r (r.attempt f).conclusion

theorem escape?_eq_none_iff :
    escape? f rules = none ↔ ∀ r ∈ rules, (r.attempt f).escape? = none :=
  List.findSome?_eq_none_iff

theorem judged_cons
    (f : Facts)
    (r : Rule)
    (rules : List Rule) :
    judged f (r :: rules) =
      Judgement.ofConclusion r (r.attempt f).conclusion >>= fun j => (judged f rules).map (j :: ·) := by
  unfold judged
  rw [List.mapM_cons]
  cases Judgement.ofConclusion r (r.attempt f).conclusion <;> rfl

/-- Rules that no error leaves are all judged. -/
theorem judged_eq_ok (h : escape? f rules = none) : judged f rules = .ok (rules.map (Judgement.of f)) := by
  rw [escape?_eq_none_iff] at h
  induction rules with
  | nil => rfl
  | cons r rules ih =>
    obtain ⟨hr, hrest⟩ := List.forall_mem_cons.mp h
    rw [judged_cons, Attempt.conclusion_eq_ok hr, ih hrest]
    rfl

/-- Of rules that errors leave, the first of the errors is what comes. -/
theorem judged_eq_error
    {e : EscapedError}
    (h : escape? f rules = some e) :
    judged f rules = .error (.escaped e) := by
  induction rules with
  | nil => cases h
  | cons r rules ih =>
    rw [escape?, List.findSome?_cons] at h
    rw [judged_cons]
    cases hr : (r.attempt f).escape? with
    | none =>
      rw [hr] at h
      rw [Attempt.conclusion_eq_ok hr, ih h]
      rfl
    | some e' =>
      rw [hr] at h
      cases h
      rw [Attempt.conclusion_eq_error hr]
      rfl

/-- If rules are judged, then no error left them, and the judgements are those of the rules alone. -/
theorem judged_eq_ok_iff
    {js : List Judgement} :
    judged f rules = .ok js ↔ escape? f rules = none ∧ js = rules.map (Judgement.of f) := by
  cases h : escape? f rules with
  | none => simp [judged_eq_ok h, eq_comm]
  | some e => simp [judged_eq_error h]

/-! ## Undisturbed evaluations -/

theorem isLate_eq_false
    (htime : o.timeLimit = none)
    (outlasted : Bool) :
    o.isLate outlasted = false := by
  simp [EvaluationOptions.isLate, htime]

theorem isCancelled_eq_false
    (h : o.Undisturbed s f rules) :
    o.isCancelled = false := by
  rcases h with hnone | ⟨hsome, -⟩ <;> simp [EvaluationOptions.isCancelled, *]

theorem cancelsBefore_eq_false
    (h : o.Undisturbed s f rules)
    (number : Nat) :
    (o.isCancellable && s.cancelsBefore number) = false := by
  rcases h with hnone | ⟨-, hcaller, -⟩
  · simp [EvaluationOptions.isCancellable, hnone]
  · simp [hcaller number]

theorem cancels_eq_false
    (h : o.Undisturbed s f rules)
    {r : Rule}
    (hr : r ∈ rules) :
    (o.isCancellable && (r.attempt f).cancels) = false := by
  rcases h with hnone | ⟨-, -, hrules⟩
  · simp [EvaluationOptions.isCancellable, hnone]
  · simp [hrules r hr]

theorem undisturbed_of_cons
    {r : Rule}
    (h : o.Undisturbed s f (r :: rules)) :
    o.Undisturbed s f rules :=
  h.imp_right fun ⟨hsome, hcaller, hrules⟩ =>
    ⟨hsome, hcaller, fun r' hr' => hrules r' (List.mem_cons_of_mem r hr')⟩

theorem sequentialFrom_eq
    (htime : o.timeLimit = none) :
    ∀ (rules : List Rule) (number : Nat) (outlasted : Bool), o.Undisturbed s f rules →
      sequentialFrom o s f number false outlasted rules = judged f rules
  | [], _, _, _ => rfl
  | r :: rules, number, outlasted, hcancel => by
    have ih := sequentialFrom_eq htime rules (number + 1)
      (outlasted || s.outlastsBefore number || (r.attempt f).outlasts) (undisturbed_of_cons hcancel)
    simp only [sequentialFrom, cancelsBefore_eq_false hcancel, isLate_eq_false htime,
      cancels_eq_false hcancel List.mem_cons_self, Bool.or_false, Bool.false_eq_true, if_false, ih,
      judged_cons]
    cases Judgement.ofConclusion r (r.attempt f).conclusion <;> rfl

/-- Rules that run one by one are judged as on their own. -/
theorem sequential_eq
    (hcancel : o.Undisturbed s f rules)
    (htime : o.timeLimit = none) :
    sequential o s f rules = judged f rules := by
  unfold sequential
  rw [isCancelled_eq_false hcancel]
  exact sequentialFrom_eq htime rules 0 false hcancel

/-- Rules that run side by side are judged as on their own, whatever the schedule. -/
theorem parallel_eq
    (hcancel : o.Undisturbed s f rules)
    (htime : o.timeLimit = none)
    (hworkers : ∀ n, o.maxWorkers = some n → 0 < n)
    (hevents : o.schedules s rules.length = true) :
    parallel o s f rules = judged f rules := by
  let terms : PoolTerms :=
    { facts := f, cancellable := o.isCancellable, limited := o.timeLimit.isSome
      workers := o.maxWorkers.map Int.toNat }
  have hstart : o.isCancelled = false := isCancelled_eq_false hcancel
  have hsound := (Pool.sound_ofRules terms rules false).steps (s.events rules.length)
  have hlimited : terms.limited = false := by simp [terms, htime]
  have hcancels : ∀ r ∈ rules, (terms.cancellable && (r.attempt terms.facts).cancels) = false :=
    fun _ => cancels_eq_false hcancel
  obtain ⟨hover, hcancelled⟩ := Pool.isOver_of_isSchedule hlimited hcancels hevents
  have hrefused := EvaluationOptions.any_le_zero_eq_false hworkers
  have hlimit : o.timeLimit.any TimeLimit.allowsNoWait = false := by simp [htime]
  unfold parallel collect
  simp only [hrefused, hlimit, hstart, Bool.false_eq_true, if_false]
  rw [if_neg (by simpa using hover), if_neg (by simpa using hcancelled)]
  rw [conclusionsOf_eq hsound hover hcancelled, List.mapM_map]
  rfl

/-- An undisturbed evaluation without a time limit judges rules as on their own, whichever way they
run. -/
theorem judgements_eq
    (hcancel : o.Undisturbed s f rules)
    (htime : o.timeLimit = none)
    (hworkers : o.lacksWorkers rules.length = false)
    (hevents : o.parallel = true → 1 < rules.length → o.schedules s rules.length = true) :
    judgements o s f rules = judged f rules := by
  unfold judgements
  split
  · rename_i hmode
    obtain ⟨hparallel, hmany⟩ : o.parallel = true ∧ 1 < rules.length := by simpa using hmode
    exact parallel_eq hcancel htime (EvaluationOptions.maxWorkers_pos hworkers hmode)
      (hevents hparallel hmany)
  · exact sequential_eq hcancel htime

/-- Without a worker that may take up a rule, rules that run side by side are not judged. -/
theorem judgements_eq_noWorkers
    (hworkers : o.lacksWorkers rules.length = true) :
    judgements o s f rules = .error .noWorkers := by
  simp only [EvaluationOptions.lacksWorkers, Bool.and_eq_true] at hworkers
  obtain ⟨hmode, hnone⟩ := hworkers
  unfold judgements parallel
  rw [if_pos (by simpa using hmode), if_pos hnone]

end Evaluation

/-- No error leaves the run of a rule of a policy. -/
theorem Registry.escape?_of_build
    {policy : Policy} {g : Registry}
    (hbuild : build policy = .ok g)
    (f : Facts)
    (o : EvaluationOptions) :
    Evaluation.escape? f (g.selected o) = none :=
  Evaluation.escape?_eq_none_iff.mpr fun _ hr =>
    (isQuiet_of_build hbuild (List.mem_of_mem_filter hr) f).escape?_eq

end RollupAudit
