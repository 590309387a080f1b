import RollupAudit.Proofs.Evaluation.Reports
import RollupAudit.Proofs.Validation.Results

/-!
# Cancelling of evaluations

The caller or a rule may cancel an evaluation at any moment. Of rules that run side by side nothing is
judged before all tasks are over, and then every cancelling is seen. Of rules that run one by one the
evaluation looks before each rule and not after the last: what the last rule does is not seen, and
nothing is seen where no rule is to run or after an error has left the run of one. Either way an
evaluation judges all rules or gives no report.

**Results.**
* `Evaluation.judgements_ends`: the three ways in which the judging of rules ends where workers are.
* `evaluate_eq_ok_cases`: every report is the report of all selected rules.
* `evaluate_cancelled_or_complete`: whatever the interleaving, there is the report of the evaluation that
  cannot be cancelled or none.
* `evaluate_cancelled_iff`: when an evaluation is cancelled.
-/

namespace RollupAudit

namespace EvaluationOptions

/-- Whether a number of rules is to run side by side. -/
def usesPool (o : EvaluationOptions) (rules : Nat) : Bool := o.parallel && 1 < rules

theorem usesPool_eq_true_iff
    {o : EvaluationOptions} {rules : Nat} :
    o.usesPool rules = true ↔ o.parallel = true ∧ 1 < rules := by
  simp [usesPool]

/-- Whether the events of a pool with a number of tasks take up and finish them while the caller
cancels at any moments. -/
def interleaves (o : EvaluationOptions) (s : Surroundings) (tasks : Nat) : Bool :=
  isInterleaving tasks (o.maxWorkers.map Int.toNat) (s.events tasks)

/-- What a pool is told. -/
def poolTerms (o : EvaluationOptions) (f : Facts) : PoolTerms where
  facts := f
  cancellable := o.isCancellable
  limited := o.timeLimit.isSome
  workers := o.maxWorkers.map Int.toNat

/-- That a pool of rules sees that it is cancelled: by the caller at any moment, or by any rule. -/
def PoolNotices (o : EvaluationOptions) (s : Surroundings) (f : Facts) (rules : List Rule) : Prop :=
  o.isCancelled = true ∨ o.isCancellable = true ∧
    (.cancel ∈ s.events rules.length ∨ ∃ r ∈ rules, (r.attempt f).cancels = true)

/-- That rules that run one by one from a number on see that they are cancelled: before one of them, by
the caller or by a rule that is not the last. -/
def RowNotices (o : EvaluationOptions) (s : Surroundings) (f : Facts) (number : Nat)
    (cancelled : Bool) (rules : List Rule) : Prop :=
  (cancelled = true ∧ rules ≠ []) ∨ o.isCancellable = true ∧
    ((∃ k < rules.length, s.cancelsBefore (number + k) = true) ∨
      ∃ r ∈ rules.dropLast, (r.attempt f).cancels = true)

/-- The rules that run one by one until an error leaves the run of one. -/
def reached (f : Facts) : List Rule → List Rule
  | [] => []
  | r :: rules => r :: if (r.attempt f).escape?.isSome then [] else reached f rules

/-- That an evaluation of rules sees that it is cancelled. -/
def Notices (o : EvaluationOptions) (s : Surroundings) (f : Facts) (rules : List Rule) : Prop :=
  if o.usesPool rules.length then o.PoolNotices s f rules
  else o.RowNotices s f 0 o.isCancelled (reached f rules)

/-- Of two or more rules in a row, all but the first are in the row of the others. -/
theorem rowNotices_cons_iff
    {o : EvaluationOptions} {s : Surroundings} {f : Facts} {number : Nat} {r : Rule} {rules : List Rule}
    (hcaller : (o.isCancellable && s.cancelsBefore number) = false) :
    o.RowNotices s f number false (r :: rules) ↔
      o.RowNotices s f (number + 1) (o.isCancellable && (r.attempt f).cancels) rules := by
  have hcount : (∃ k < (r :: rules).length, s.cancelsBefore (number + k) = true) ↔
      s.cancelsBefore number = true ∨
        ∃ k < rules.length, s.cancelsBefore (number + 1 + k) = true := by
    constructor
    · rintro ⟨_ | k, hlt, hk⟩
      · exact .inl hk
      · exact .inr ⟨k, Nat.lt_of_succ_lt_succ hlt, by rwa [Nat.add_assoc, Nat.add_comm 1 k]⟩
    · rintro (hfirst | ⟨k, hlt, hk⟩)
      · exact ⟨0, by simp, hfirst⟩
      · exact ⟨k + 1, Nat.succ_lt_succ hlt, by rwa [Nat.add_comm k 1, ← Nat.add_assoc]⟩
  unfold RowNotices
  rw [hcount]
  cases hcancellable : o.isCancellable
  · simp
  · have hquiet : s.cancelsBefore number = false := by simpa [hcancellable] using hcaller
    cases rules with
    | nil => simp [hquiet]
    | cons r' rest =>
      simp only [hquiet, ne_eq, reduceCtorEq, not_false_eq_true, and_true, Bool.false_eq_true,
        false_or, true_and, Bool.true_and, List.dropLast_cons_cons, List.mem_cons,
        exists_eq_or_imp]
      exact or_left_comm

end EvaluationOptions

namespace Evaluation

variable {o : EvaluationOptions} {s : Surroundings} {f : Facts} {rules : List Rule}

/-- The pool of rules that run side by side, after all that happens in it. -/
def pool (o : EvaluationOptions) (s : Surroundings) (f : Facts) (rules : List Rule) : Pool :=
  (Pool.ofRules rules o.isCancelled).steps (o.poolTerms f) (s.events rules.length)

/-- How the judging of rules ends, by whether it notices that it is cancelled and whether tasks are left
that nobody takes up or finishes. If it is complete, then it comes to what the rules come to on their
own, which may be an error that leaves the run of one. -/
inductive Ends (o : EvaluationOptions) (f : Facts) (rules : List Rule) (notices unfinished : Prop) :
    Except EvaluationError (List Judgement) → Prop
  | complete (h : ¬ notices) : Ends o f rules notices unfinished (judged f rules)
  | cancelled (h : notices) : Ends o f rules notices unfinished (.error .cancelled)
  | timedOut (h : o.timeLimit ≠ none ∨ unfinished) :
      Ends o f rules notices unfinished (.error (.timedOut o.timeLimit))

theorem Ends.imp
    {notices unfinished unfinished' : Prop} {x : Except EvaluationError (List Judgement)}
    (h : Ends o f rules notices unfinished x)
    (himp : unfinished → unfinished') :
    Ends o f rules notices unfinished' x := by
  cases h with
  | complete h => exact .complete h
  | cancelled h => exact .cancelled h
  | timedOut h => exact .timedOut (h.imp_right himp)

/-- Rules that run one by one are judged as on their own, unless it is noticed that they are cancelled or
late. -/
theorem sequentialFrom_ends
    (rules : List Rule)
    (number : Nat)
    (cancelled outlasted : Bool) :
    Ends o f rules (o.RowNotices s f number cancelled (EvaluationOptions.reached f rules)) False
      (sequentialFrom o s f number cancelled outlasted rules) := by
  induction rules generalizing number cancelled outlasted with
  | nil => exact .complete (by simp [EvaluationOptions.RowNotices, EvaluationOptions.reached])
  | cons r rules ih =>
    unfold sequentialFrom
    dsimp only
    split
    · rename_i hcancelled
      refine .cancelled ?_
      rcases Bool.or_eq_true_iff.mp hcancelled with hstart | hcaller
      · exact .inl ⟨hstart, List.cons_ne_nil r _⟩
      · obtain ⟨hcancellable, hcaller⟩ := Bool.and_eq_true_iff.mp hcaller
        exact .inr ⟨hcancellable, .inl ⟨0, Nat.succ_pos _, hcaller⟩⟩
    · rename_i hcancelled
      obtain ⟨rfl, hcaller⟩ := Bool.or_eq_false_iff.mp (Bool.eq_false_iff.mpr hcancelled)
      split
      · rename_i hlate
        refine .timedOut (.inl fun hnone => ?_)
        rw [isLate_eq_false hnone] at hlate
        cases hlate
      · rw [EvaluationOptions.reached, EvaluationOptions.rowNotices_cons_iff hcaller, hcaller,
          Bool.or_self, Bool.false_or]
        have hjudged := judged_cons f r rules
        cases hescape : (r.attempt f).escape? with
        | some e =>
          -- The error ends the row, and nobody looks again.
          rw [Attempt.conclusion_eq_error hescape] at hjudged ⊢
          simp only [Judgement.ofConclusion, Except.map, Except.mapError, bind, Except.bind] at hjudged ⊢
          exact hjudged ▸ .complete (by simp [EvaluationOptions.RowNotices])
        | none =>
          -- The rules that are left run as in a row of their own.
          rw [Attempt.conclusion_eq_ok hescape] at hjudged ⊢
          have hrest := ih (number + 1) (o.isCancellable && (r.attempt f).cancels)
            (outlasted || s.outlastsBefore number || (r.attempt f).outlasts)
          simp only [Judgement.ofConclusion, Except.map, Except.mapError, bind, Except.bind] at hjudged ⊢
          generalize sequentialFrom o s f (number + 1) _ _ rules = rest at hrest ⊢
          cases hrest with
          | complete h => exact hjudged ▸ .complete h
          | cancelled h => exact .cancelled h
          | timedOut h => exact .timedOut h

theorem isOver_pool
    (htime : o.timeLimit = none)
    (hevents : o.interleaves s rules.length = true) :
    (pool o s f rules).isOver = true :=
  Pool.isOver_of_isInterleaving (by simp [EvaluationOptions.poolTerms, htime]) hevents

/-- A pool that is over holds what all rules come to, unless it was cancelled. -/
theorem collect_ends :
    Ends o f rules (o.PoolNotices s f rules) (o.interleaves s rules.length = false)
      (collect o.timeLimit (pool o s f rules)) := by
  have hsound := (Pool.sound_ofRules (o.poolTerms f) rules o.isCancelled).steps (s.events rules.length)
  unfold collect
  cases hover : (pool o s f rules).isOver
  · refine .timedOut (or_iff_not_imp_left.mpr fun htime => Bool.eq_false_iff.mpr fun hevents => ?_)
    rw [isOver_pool (not_not.mp htime) hevents] at hover
    cases hover
  · have hnotices : (pool o s f rules).cancelled = true ↔ o.PoolNotices s f rules :=
      Pool.cancelled_steps_iff hover
    cases hcancelled : (pool o s f rules).cancelled
    · have hjudged : (conclusionsOf (pool o s f rules)).mapM
          (fun t => Judgement.ofConclusion t.1 t.2) = judged f rules := by
        rw [pool, conclusionsOf_eq hsound hover hcancelled, List.mapM_map]
        rfl
      refine hjudged ▸ .complete fun h => ?_
      exact absurd (hnotices.mpr h) (Bool.eq_false_iff.mp hcancelled)
    · exact .cancelled (hnotices.mp hcancelled)

/-- A pool that is over and notices no cancelling has run all its tasks. -/
theorem ended_of_mem_pool
    (hover : (pool o s f rules).isOver = true)
    (hnotices : ¬ o.PoolNotices s f rules)
    {t : Rule × TaskState}
    (ht : t ∈ (pool o s f rules).tasks) :
    t.2 = .ended (t.1.attempt f).conclusion := by
  have hsound := (Pool.sound_ofRules (o.poolTerms f) rules o.isCancelled).steps (s.events rules.length)
  have hcancelled : (pool o s f rules).cancelled = false :=
    Bool.eq_false_iff.mpr fun h => hnotices ((Pool.cancelled_steps_iff hover).mp h)
  have hconclusion : t.2.conclusion? = some (t.1.attempt f).conclusion :=
    conclusion?_eq_some hsound hover hcancelled ht
  cases hstate : t.2 with
  | ended c =>
    rw [hstate] at hconclusion
    exact congrArg TaskState.ended (Option.some.inj hconclusion)
  | _ =>
    rw [hstate] at hconclusion
    cases hconclusion

/-- Rules that run side by side are judged as on their own, unless the pool was cancelled or left tasks
unfinished. -/
theorem parallel_ends
    (hworkers : ∀ n, o.maxWorkers = some n → 0 < n) :
    Ends o f rules (o.PoolNotices s f rules) (o.interleaves s rules.length = false)
      (parallel o s f rules) := by
  unfold parallel
  rw [EvaluationOptions.any_le_zero_eq_false hworkers]
  split
  · contradiction
  · split
    · rename_i hlimit
      refine .timedOut (.inl fun hnone => ?_)
      rw [hnone] at hlimit
      cases hlimit
    · exact collect_ends

/-- The judging of rules ends in one of three ways, unless there is no worker. -/
theorem judgements_ends
    (hworkers : o.lacksWorkers rules.length = false) :
    Ends o f rules (o.Notices s f rules)
      (o.usesPool rules.length = true ∧ o.interleaves s rules.length = false)
      (judgements o s f rules) := by
  unfold judgements EvaluationOptions.Notices
  cases hmode : o.usesPool rules.length
  · have hrow : ¬ (o.parallel && decide (1 < rules.length)) = true := Bool.eq_false_iff.mp hmode
    rw [if_neg hrow, if_neg Bool.false_ne_true]
    exact (sequentialFrom_ends rules 0 o.isCancelled false).imp False.elim
  · have hpool : (o.parallel && decide (1 < rules.length)) = true := hmode
    rw [if_pos hpool, if_pos rfl]
    exact (parallel_ends (EvaluationOptions.maxWorkers_pos hworkers hpool)).imp fun h => ⟨rfl, h⟩

end Evaluation

section Evaluate

variable {g : Registry} {f : Facts} {o : EvaluationOptions} {s : Surroundings} {reference : String}

/-- Every report of an evaluation is the report of all selected rules, and nothing was noticed that
cancels it. -/
theorem evaluate_eq_ok_cases
    {report : Report}
    (h : evaluate g f o s = .ok report) :
    ¬ o.Notices s f (g.selected o) ∧ ∃ reference, f.reference? = some reference ∧
      report = Evaluation.report o reference (g.selected o)
        ((g.selected o).map (Judgement.of f)) := by
  cases href : f.reference? with
  | none =>
    unfold evaluate at h
    rw [href] at h
    cases h
  | some reference =>
    rw [evaluate_eq href] at h
    obtain ⟨js, hjs, rfl⟩ := map_eq_ok_iff.mp h
    cases hworkers : o.lacksWorkers (g.selected o).length
    · have hends := Evaluation.judgements_ends (s := s) (f := f) hworkers
      generalize Evaluation.judgements o s f (g.selected o) = judged at hends hjs
      cases hends with
      | complete hnotices =>
        obtain ⟨-, rfl⟩ := Evaluation.judged_eq_ok_iff.mp hjs
        exact ⟨hnotices, reference, rfl, rfl⟩
      | cancelled => cases hjs
      | timedOut => cases hjs
    · rw [Evaluation.judgements_eq_noWorkers hworkers] at hjs
      cases hjs

/-- Whatever the interleaving of the tasks with one another and with the cancelling, an evaluation
without a time limit is cancelled, or it gives what the same rules and workers give in an evaluation that
cannot be cancelled: the report, unless an error leaves the run of a rule. In the latter cases no task of
the pool was skipped. -/
theorem evaluate_cancelled_or_complete
    (href : f.reference? = some reference)
    (htime : o.timeLimit = none)
    (hworkers : o.lacksWorkers (g.selected o).length = false)
    (hevents : o.usesPool (g.selected o).length = true →
      o.interleaves s (g.selected o).length = true) :
    evaluate g f o s = .error .cancelled ∨
      (∀ s', (o.usesPool (g.selected o).length = true →
          o.schedules s' (g.selected o).length = true) →
        evaluate g f { o with cancelled := none } s' = evaluate g f o s) ∧
      ((∀ r ∈ g.selected o, (r.attempt f).escape? = none) →
        ∃ report, evaluate g f o s = .ok report) ∧
      (o.usesPool (g.selected o).length = true →
        ∀ t ∈ (Evaluation.pool o s f (g.selected o)).tasks,
          t.2 = .ended (t.1.attempt f).conclusion) := by
  have hends := Evaluation.judgements_ends (s := s) (f := f) hworkers
  have hevaluate := @evaluate_eq g f o s reference href
  generalize Evaluation.judgements o s f (g.selected o) = judged at hends hevaluate
  cases hends with
  | complete hnotices =>
    refine .inr ⟨fun s' hschedule => ?_, fun hescape => ?_, fun hpool t ht => ?_⟩
    · rw [hevaluate]
      exact evaluate_eq_judged href (.inl rfl) htime hworkers fun hparallel hmany =>
        hschedule (EvaluationOptions.usesPool_eq_true_iff.mpr ⟨hparallel, hmany⟩)
    · rw [hevaluate, Evaluation.judged_eq_ok (Evaluation.escape?_eq_none_iff.mpr hescape)]
      exact ⟨_, rfl⟩
    · rw [EvaluationOptions.Notices, if_pos hpool] at hnotices
      exact Evaluation.ended_of_mem_pool (Evaluation.isOver_pool htime (hevents hpool)) hnotices ht
  | cancelled => exact .inl hevaluate
  | timedOut hlate =>
    rcases hlate with hlimited | ⟨hpool, hunfinished⟩
    · exact absurd htime hlimited
    · rw [hevents hpool] at hunfinished
      cases hunfinished

/-- The schedule of the four rules to try, in which the caller cancels after the first one is finished. -/
def haltedSurroundings : Surroundings where
  events _ := trialEvents.take 3 ++ .cancel :: trialEvents.drop 3

/-- Two workers at the four rules to try, of which two are taken up before the caller cancels. -/
theorem evaluate_cancelled_or_complete_trialRules :
    let o : EvaluationOptions := { trialOptions with cancelled := some false }
    o.interleaves haltedSurroundings 4 = true ∧
      (evaluate trialRegistry trialFacts o haltedSurroundings = .error .cancelled ∨
        ∃ report, evaluate trialRegistry trialFacts o haltedSurroundings = .ok report ∧
          evaluate trialRegistry trialFacts trialOptions trialSurroundings = .ok report) := by
  intro o
  obtain ⟨reference, href⟩ := trialFacts_reference
  have hevents : o.interleaves haltedSurroundings 4 = true := by decide
  refine ⟨hevents, ?_⟩
  rcases evaluate_cancelled_or_complete (g := trialRegistry) (o := o) href rfl rfl fun _ => hevents with
    hcancelled | ⟨hcomplete, hreport, -⟩
  · exact .inl hcancelled
  · obtain ⟨report, hreport⟩ := hreport (by decide)
    have hsame := hcomplete trialSurroundings fun _ => trialEvents_schedules
    exact .inr ⟨report, hreport, hsame.trans hreport⟩

end Evaluate
end RollupAudit
