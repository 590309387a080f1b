import RollupAudit.Proofs.Evaluation.Cancellation

/-!
# The course of an evaluation

Whether an evaluation comes to a report, and if not for which reason, depends on the options, on what
goes on around it, and on whether its rules cancel or outlast it. What the rules find has no part in
it. A pool is followed without the outcomes of its tasks: every event commutes with leaving them out.

**Results.**
* `Pool.withoutOutcomes_steps`: what becomes of a pool, apart from outcomes.
* `course_evaluate`: evaluations of snapshots on which the rules act alike both come to a report, or
  fail alike.
-/

namespace RollupAudit

/-- That a rule does the same to the evaluations of two snapshots. -/
structure Rule.ActsAlike (f g : Facts) (r : Rule) : Prop where
  cancels_eq : (r.attempt g).cancels = (r.attempt f).cancels
  outlasts_eq : (r.attempt g).outlasts = (r.attempt f).outlasts
  escape?_eq : (r.attempt g).escape? = (r.attempt f).escape?

/-- What a run comes to without the outcome. -/
def withoutOutcome (c : Except EscapedError Outcome) : Except EscapedError Outcome :=
  c.map fun _ => .passed

/-- Runs come to the same without their outcomes if the same error leaves them or none does. -/
theorem Attempt.withoutOutcome_conclusion_eq
    {a a' : Attempt}
    (h : a'.escape? = a.escape?) :
    withoutOutcome a'.conclusion = withoutOutcome a.conclusion := by
  cases ha : a.escape? with
  | none =>
    rw [conclusion_eq_ok ha, conclusion_eq_ok (h.trans ha)]
    rfl
  | some e => rw [conclusion_eq_error ha, conclusion_eq_error (h.trans ha)]

/-- The state of a task without the outcome that it ended with. -/
def TaskState.withoutOutcome : TaskState → TaskState
  | .ended c => .ended (RollupAudit.withoutOutcome c)
  | s => s

namespace Pool

variable {terms : PoolTerms} {p q : Pool} {g : Facts}

/-- A pool without the outcomes of its tasks. -/
def withoutOutcomes (p : Pool) : Pool :=
  { p with tasks := p.tasks.map fun t => (t.1, t.2.withoutOutcome) }

theorem runningCount_withoutOutcomes (p : Pool) :
    p.withoutOutcomes.runningCount = p.runningCount := by
  have hrunning (s : TaskState) : s.withoutOutcome.isRunning = s.isRunning := by
    cases s <;> rfl
  rw [runningCount, withoutOutcomes, List.countP_map, runningCount]
  exact List.countP_congr fun t _ => by rw [Function.comp_apply, hrunning]

theorem hasFreeWorker_withoutOutcomes (p : Pool) :
    p.withoutOutcomes.hasFreeWorker terms = p.hasFreeWorker terms := by
  rw [hasFreeWorker, hasFreeWorker, runningCount_withoutOutcomes]

theorem isOver_withoutOutcomes (p : Pool) : p.withoutOutcomes.isOver = p.isOver := by
  have hover (s : TaskState) : s.withoutOutcome.isOver = s.isOver := by
    cases s <;> rfl
  simp [isOver, withoutOutcomes, List.all_map, Function.comp_def, hover]

theorem withoutOutcomes_setState
    (p : Pool)
    (i : Nat)
    (r : Rule)
    (s : TaskState) :
    (p.setState i r s).withoutOutcomes = p.withoutOutcomes.setState i r s.withoutOutcome := by
  simp [setState, withoutOutcomes, List.map_set]

theorem withoutOutcomes_withoutOutcomes (p : Pool) :
    p.withoutOutcomes.withoutOutcomes = p.withoutOutcomes := by
  have hstate (s : TaskState) : s.withoutOutcome.withoutOutcome = s.withoutOutcome := by
    cases s with
    | ended c => cases c <;> rfl
    | _ => rfl
  simp [withoutOutcomes, Function.comp_def, hstate]

theorem getElem?_withoutOutcomes
    (p : Pool)
    (i : Nat) :
    p.withoutOutcomes.tasks[i]? = p.tasks[i]?.map fun t => (t.1, t.2.withoutOutcome) :=
  List.getElem?_map

/-- An event does to a pool what it does on other facts to the pool without outcomes, apart from
outcomes, if the rules act alike. -/
theorem withoutOutcomes_step
    (hrules : ∀ r ∈ p.tasks.map Prod.fst, r.ActsAlike terms.facts g)
    (e : PoolEvent) :
    (p.step { terms with facts := g } e).withoutOutcomes =
      (p.withoutOutcomes.step terms e).withoutOutcomes := by
  cases e with
  | start i =>
    have hfree : p.hasFreeWorker { terms with facts := g } = p.hasFreeWorker terms := rfl
    simp only [step, getElem?_withoutOutcomes, hasFreeWorker_withoutOutcomes, hfree]
    cases htask : p.tasks[i]? with
    | none => exact (withoutOutcomes_withoutOutcomes p).symm
    | some t =>
      obtain ⟨r, state⟩ := t
      cases state with
      | waiting =>
        show (if _ then _ else _ : Pool).withoutOutcomes = (if _ then _ else _ : Pool).withoutOutcomes
        split
        · rw [withoutOutcomes_setState, withoutOutcomes_setState, withoutOutcomes_withoutOutcomes]
          rfl
        · exact (withoutOutcomes_withoutOutcomes p).symm
      | _ => exact (withoutOutcomes_withoutOutcomes p).symm
  | finish i =>
    simp only [step, getElem?_withoutOutcomes]
    cases htask : p.tasks[i]? with
    | none => exact (withoutOutcomes_withoutOutcomes p).symm
    | some t =>
      obtain ⟨r, state⟩ := t
      cases state with
      | running =>
        have hr := hrules r (List.mem_map.mpr ⟨_, List.mem_of_getElem? htask, rfl⟩)
        have hset : (p.setState i r (.ended (r.attempt g).conclusion)).withoutOutcomes =
            (p.withoutOutcomes.setState i r (.ended (r.attempt terms.facts).conclusion)).withoutOutcomes := by
          rw [withoutOutcomes_setState, withoutOutcomes_setState, withoutOutcomes_withoutOutcomes,
            TaskState.withoutOutcome, TaskState.withoutOutcome,
            Attempt.withoutOutcome_conclusion_eq hr.escape?_eq]
        show (if _ then _ else _ : Pool).withoutOutcomes = (if _ then _ else _ : Pool).withoutOutcomes
        rw [hr.cancels_eq, hr.outlasts_eq]
        split
        · exact (withoutOutcomes_withoutOutcomes p).symm
        · exact congrArg (Pool.mk · (p.cancelled || (terms.cancellable && (r.attempt terms.facts).cancels)))
            (congrArg Pool.tasks hset)
      | _ => exact (withoutOutcomes_withoutOutcomes p).symm
  | cancel =>
    exact congrArg (Pool.mk · (p.cancelled || terms.cancellable))
      (congrArg Pool.tasks (withoutOutcomes_withoutOutcomes p).symm)

theorem map_fst_step
    (terms : PoolTerms)
    (p : Pool)
    (e : PoolEvent) :
    (p.step terms e).tasks.map Prod.fst = p.tasks.map Prod.fst := by
  obtain hsame | ⟨i, r, -, htask, -, heq⟩ | ⟨i, r, -, htask, heq⟩ | ⟨-, heq⟩ := step_cases terms p e
  · rw [hsame]
  · rw [heq]
    exact map_fst_setState htask
  · rw [heq]
    exact map_fst_setState htask
  · rw [heq]

/-- What becomes of a pool on any facts on which the rules act alike, apart from outcomes, is what
becomes of the pool without outcomes. -/
theorem withoutOutcomes_steps
    (hrules : ∀ r ∈ p.tasks.map Prod.fst, r.ActsAlike terms.facts g)
    (events : List PoolEvent) :
    (p.steps { terms with facts := g } events).withoutOutcomes =
      (p.withoutOutcomes.steps terms events).withoutOutcomes := by
  induction events generalizing p g with
  | nil => exact (withoutOutcomes_withoutOutcomes p).symm
  | cons e es ih =>
    let next := p.withoutOutcomes.step terms e
    have hrulesNext : ∀ r ∈ (p.step { terms with facts := g } e).tasks.map Prod.fst,
        r.ActsAlike terms.facts g := by
      rw [map_fst_step]
      exact hrules
    have hstep := withoutOutcomes_step hrules e
    calc ((p.step { terms with facts := g } e).steps { terms with facts := g } es).withoutOutcomes
        = ((p.step { terms with facts := g } e).withoutOutcomes.steps terms es).withoutOutcomes :=
          ih hrulesNext
      _ = (next.withoutOutcomes.steps terms es).withoutOutcomes := by rw [hstep]
      _ = (next.steps terms es).withoutOutcomes := (ih fun r _ => ⟨rfl, rfl, rfl⟩).symm

end Pool

namespace Evaluation

variable {o : EvaluationOptions} {s : Surroundings} {f g : Facts} {rules : List Rule}

/-- What is left of a result when only its being there or its error counts. -/
def course {α : Type} (x : Except EvaluationError α) : Except EvaluationError Unit := x.map fun _ => ()

theorem course_map
    {α β : Type}
    (x : Except EvaluationError α)
    (h : α → β) :
    course (x.map h) = course x := by
  cases x <;> rfl

/-- Computations one after the other end as their courses do. -/
theorem course_mapM
    {α β : Type} {h h' : α → Except EvaluationError β} {as : List α}
    (heach : ∀ a ∈ as, course (h a) = course (h' a)) :
    course (as.mapM h) = course (as.mapM h') := by
  induction as with
  | nil => rfl
  | cons a as ih =>
    obtain ⟨ha, has⟩ := List.forall_mem_cons.mp heach
    have hrest := ih has
    simp only [List.mapM_cons]
    generalize h a = x at ha ⊢
    generalize h' a = x' at ha ⊢
    generalize as.mapM h = y at hrest ⊢
    generalize as.mapM h' = y' at hrest ⊢
    cases x <;> cases x' <;> cases y <;> cases y' <;>
      simp_all [course, Except.map, bind, Except.bind, pure, Except.pure]

theorem course_sequentialFrom
    (hrules : ∀ r ∈ rules, r.ActsAlike f g)
    (number : Nat)
    (cancelled outlasted : Bool) :
    course (sequentialFrom o s g number cancelled outlasted rules) =
      course (sequentialFrom o s f number cancelled outlasted rules) := by
  induction rules generalizing number cancelled outlasted with
  | nil => rfl
  | cons r rules ih =>
    obtain ⟨hr, hrest⟩ := List.forall_mem_cons.mp hrules
    simp only [sequentialFrom, hr.cancels_eq, hr.outlasts_eq]
    split
    · rfl
    · split
      · rfl
      · cases hescape : (r.attempt f).escape? with
        | none =>
          rw [Attempt.conclusion_eq_ok hescape, Attempt.conclusion_eq_ok (hr.escape?_eq.trans hescape)]
          simp only [Judgement.ofConclusion, Except.map, Except.mapError]
          exact (course_map _ _).trans ((ih hrest _ _ _).trans (course_map _ _).symm)
        | some e =>
          rw [Attempt.conclusion_eq_error hescape,
            Attempt.conclusion_eq_error (hr.escape?_eq.trans hescape)]
          rfl

theorem course_conclusionsOf (p : Pool) :
    course ((conclusionsOf p).mapM fun t => Judgement.ofConclusion t.1 t.2) =
      course ((conclusionsOf p.withoutOutcomes).mapM fun t => Judgement.ofConclusion t.1 t.2) := by
  have hconclusions : conclusionsOf p.withoutOutcomes =
      (conclusionsOf p).map fun t => (t.1, withoutOutcome t.2) := by
    unfold conclusionsOf Pool.withoutOutcomes
    rw [List.filterMap_map, List.map_filterMap]
    congr 1
    funext ⟨r, s⟩
    cases s <;> rfl
  rw [hconclusions, List.mapM_map]
  refine course_mapM fun t _ => ?_
  obtain ⟨r, c⟩ := t
  cases c <;> rfl

/-- A pool comes to judgements or to an error by its tasks without their outcomes. -/
theorem course_collect
    {limit : Option TimeLimit} {p q : Pool}
    (h : q.withoutOutcomes = p.withoutOutcomes) :
    course (collect limit q) = course (collect limit p) := by
  have hover : q.isOver = p.isOver := by
    rw [← Pool.isOver_withoutOutcomes, h, Pool.isOver_withoutOutcomes]
  have hcancelled : q.cancelled = p.cancelled :=
    show q.withoutOutcomes.cancelled = p.withoutOutcomes.cancelled by rw [h]
  unfold collect
  rw [hover, hcancelled]
  split
  · rfl
  · split
    · rfl
    · rw [course_conclusionsOf q, h, ← course_conclusionsOf p]

theorem course_parallel
    (hrules : ∀ r ∈ rules, r.ActsAlike f g) :
    course (parallel o s g rules) = course (parallel o s f rules) := by
  have hstart : ∀ r ∈ (Pool.ofRules rules o.isCancelled).tasks.map Prod.fst, r.ActsAlike f g := by
    simpa [Pool.ofRules, Function.comp_def] using hrules
  have hpool : (pool o s g rules).withoutOutcomes = (pool o s f rules).withoutOutcomes := by
    have hsteps (k : Facts) :=
      @Pool.withoutOutcomes_steps (o.poolTerms f) (Pool.ofRules rules o.isCancelled) k
    exact (hsteps g hstart _).trans (hsteps f (fun _ _ => ⟨rfl, rfl, rfl⟩) _).symm
  unfold parallel
  split
  · rfl
  · split
    · rfl
    · exact course_collect hpool

/-- The judging of rules that act alike on two snapshots ends alike. -/
theorem course_judgements
    (hrules : ∀ r ∈ rules, r.ActsAlike f g) :
    course (judgements o s g rules) = course (judgements o s f rules) := by
  unfold judgements
  split
  · exact course_parallel hrules
  · exact course_sequentialFrom hrules _ _ _

end Evaluation

/-- Evaluations of snapshots with one reference, on which the selected rules act alike, both come to a
report or fail alike. -/
theorem course_evaluate
    {registry : Registry} {f g : Facts} {o : EvaluationOptions} {s : Surroundings}
    (href : g.reference? = f.reference?)
    (hrules : ∀ r ∈ registry.selected o, r.ActsAlike f g) :
    Evaluation.course (evaluate registry g o s) = Evaluation.course (evaluate registry f o s) := by
  cases hf : f.reference? with
  | none =>
    unfold evaluate
    rw [href, hf]
  | some reference =>
    rw [evaluate_eq (href.trans hf), evaluate_eq hf, Evaluation.course_map, Evaluation.course_map]
    exact Evaluation.course_judgements hrules

end RollupAudit
