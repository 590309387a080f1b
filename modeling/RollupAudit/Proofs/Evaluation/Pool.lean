import Mathlib.Data.List.Basic
import RollupAudit.Evaluation.Basic

/-!
# What happens in a pool

An event changes at most one task of a pool: a waiting task is taken up, a running one comes to its
end, or nothing happens. Whatever the order of the events, the rules of the tasks stay as they are,
a task that ended holds what the run of its own rule came to, and a task is skipped only after the
evaluation was cancelled.

**Results.**
* `Pool.step_cases`: all that an event can do.
* `Pool.Sound.steps`: the invariant of every run of events.
* `Pool.cancelled_steps_iff`: what has cancelled a pool that is over.
* `Evaluation.conclusionsOf_eq`: a pool that is over and was not cancelled holds the conclusions of its
  rules, in the order of the rules.
-/

namespace RollupAudit
namespace Pool

variable {terms : PoolTerms} {p q : Pool} {rules : List Rule}

/-- An event takes up a waiting task, ends a running one, cancels, or does nothing. -/
theorem step_cases
    (terms : PoolTerms)
    (p : Pool)
    (e : PoolEvent) :
    (p.step terms e = p) ∨
    (∃ i r, e = .start i ∧ p.tasks[i]? = some (r, .waiting) ∧ p.hasFreeWorker terms = true ∧
      p.step terms e = p.setState i r (if p.cancelled then .skipped else .running)) ∨
    (∃ i r, e = .finish i ∧ p.tasks[i]? = some (r, .running) ∧
      p.step terms e =
        { p.setState i r (.ended (r.attempt terms.facts).conclusion) with
          cancelled := p.cancelled || (terms.cancellable && (r.attempt terms.facts).cancels) }) ∨
    (e = .cancel ∧ p.step terms e = { p with cancelled := p.cancelled || terms.cancellable }) := by
  cases e with
  | start i =>
    simp only [step]
    split
    · rename_i r htask
      split
      · rename_i hfree
        exact .inr (.inl ⟨i, r, rfl, htask, hfree, rfl⟩)
      · exact .inl rfl
    · exact .inl rfl
  | finish i =>
    simp only [step]
    split
    · rename_i r htask
      split
      · exact .inl rfl
      · exact .inr (.inr (.inl ⟨i, r, rfl, htask, rfl⟩))
    · exact .inl rfl
  | cancel => exact .inr (.inr (.inr ⟨rfl, rfl⟩))

/-- Setting the state of a task leaves the rules of the tasks as they are. -/
theorem map_fst_setState
    {i : Nat} {r : Rule} {s t : TaskState}
    (htask : p.tasks[i]? = some (r, s)) :
    (p.setState i r t).tasks.map Prod.fst = p.tasks.map Prod.fst := by
  simp only [setState, List.map_set]
  apply List.ext_getElem?
  intro j
  rw [List.getElem?_set]
  split
  · rename_i hij
    obtain ⟨hlt, hget⟩ := List.getElem?_eq_some_iff.mp htask
    subst hij
    simp [hlt, hget]
  · rfl

theorem mem_tasks_setState
    {i : Nat} {r : Rule} {s : TaskState} {t : Rule × TaskState}
    (h : t ∈ (p.setState i r s).tasks) :
    t ∈ p.tasks ∨ t = (r, s) :=
  List.mem_or_eq_of_mem_set h

/-- The tasks of a pool are those of rules, in their order; a task that ended has the conclusion of its
rule; and no task is skipped unless the evaluation is cancelled. -/
structure Sound (terms : PoolTerms) (rules : List Rule) (p : Pool) : Prop where
  rules_eq : p.tasks.map Prod.fst = rules
  conclusion_eq : ∀ r c, (r, TaskState.ended c) ∈ p.tasks → c = (r.attempt terms.facts).conclusion
  cancelled_of_skipped : ∀ r, (r, TaskState.skipped) ∈ p.tasks → p.cancelled = true

theorem sound_ofRules
    (terms : PoolTerms)
    (rules : List Rule)
    (cancelled : Bool) :
    Sound terms rules (ofRules rules cancelled) where
  rules_eq := by simp [ofRules, Function.comp_def]
  conclusion_eq r c h := by simp [ofRules] at h
  cancelled_of_skipped r h := by simp [ofRules] at h

/-- Every event keeps a pool sound. -/
theorem Sound.step
    (h : Sound terms rules p)
    (e : PoolEvent) :
    Sound terms rules (p.step terms e) := by
  obtain hsame | ⟨i, r, -, htask, -, heq⟩ | ⟨i, r, -, htask, heq⟩ | ⟨-, heq⟩ :=
    step_cases terms p e
  · rw [hsame]
    exact h
  · rw [heq]
    refine ⟨(map_fst_setState htask).trans h.rules_eq, ?_, ?_⟩
    · intro r' c hmem
      rcases mem_tasks_setState hmem with hold | hnew
      · exact h.conclusion_eq r' c hold
      · split at hnew <;> simp at hnew
    · intro r' hmem
      rcases mem_tasks_setState hmem with hold | hnew
      · exact h.cancelled_of_skipped r' hold
      · split at hnew
        · assumption
        · simp at hnew
  · rw [heq]
    refine ⟨(map_fst_setState htask).trans h.rules_eq, ?_, ?_⟩
    · intro r' c hmem
      rcases mem_tasks_setState hmem with hold | hnew
      · exact h.conclusion_eq r' c hold
      · simp only [Prod.mk.injEq, TaskState.ended.injEq] at hnew
        rw [hnew.2, hnew.1]
    · intro r' hmem
      rcases mem_tasks_setState hmem with hold | hnew
      · simp [h.cancelled_of_skipped r' hold]
      · simp at hnew
  · rw [heq]
    refine ⟨h.rules_eq, h.conclusion_eq, ?_⟩
    intro r' hmem
    simp [h.cancelled_of_skipped r' hmem]

/-- Every run of events, in any order, keeps a pool sound. -/
theorem Sound.steps
    (h : Sound terms rules p)
    (events : List PoolEvent) :
    Sound terms rules (p.steps terms events) := by
  induction events generalizing p with
  | nil => exact h
  | cons e es ih => exact ih (h.step e)

/-! ## What cancels a pool -/

/-- A pool that is cancelled stays so. -/
theorem cancelled_steps
    (h : p.cancelled = true)
    (events : List PoolEvent) :
    (p.steps terms events).cancelled = true := by
  induction events generalizing p with
  | nil => exact h
  | cons e es ih =>
    apply ih
    obtain hsame | ⟨i, r, -, -, -, heq⟩ | ⟨i, r, -, -, heq⟩ | ⟨-, heq⟩ := step_cases terms p e
    · rw [hsame, h]
    · rw [heq]
      exact h
    · simp [heq, h]
    · simp [heq, h]

theorem cancelled_of_mem
    {events : List PoolEvent}
    (hcancellable : terms.cancellable = true)
    (h : .cancel ∈ events) :
    (p.steps terms events).cancelled = true := by
  induction events generalizing p with
  | nil => cases h
  | cons e es ih =>
    rcases List.mem_cons.mp h with rfl | hmem
    · exact cancelled_steps (by simp [step, hcancellable]) es
    · exact ih hmem

/-- A pool is cancelled by nobody but the caller and its rules. -/
theorem Sound.cancelled_steps_cases
    {events : List PoolEvent}
    (h : Sound terms rules p)
    (hcancelled : (p.steps terms events).cancelled = true) :
    p.cancelled = true ∨ terms.cancellable = true ∧
      (.cancel ∈ events ∨ ∃ r ∈ rules, (r.attempt terms.facts).cancels = true) := by
  induction events generalizing p with
  | nil => exact .inl hcancelled
  | cons e es ih =>
    rcases ih (h.step e) hcancelled with hstep | ⟨hcancellable, hcaller | hrule⟩
    · obtain hsame | ⟨i, r, -, -, -, heq⟩ | ⟨i, r, -, htask, heq⟩ | ⟨rfl, heq⟩ :=
        step_cases terms p e
      · exact .inl (hsame ▸ hstep)
      · exact .inl (by rwa [heq] at hstep)
      · simp only [heq, Bool.or_eq_true, Bool.and_eq_true] at hstep
        have hr : r ∈ rules := by
          rw [← h.rules_eq]
          exact List.mem_map_of_mem (List.mem_of_getElem? htask)
        exact hstep.imp_right fun hcancels => ⟨hcancels.1, .inr ⟨r, hr, hcancels.2⟩⟩
      · simp only [heq, Bool.or_eq_true] at hstep
        exact hstep.imp_right fun hcancellable => ⟨hcancellable, .inl List.mem_cons_self⟩
    · exact .inr ⟨hcancellable, .inl (List.mem_cons_of_mem e hcaller)⟩
    · exact .inr ⟨hcancellable, .inr hrule⟩

/-- That a pool is cancelled once a rule that cancels has ended. -/
def HeedsRules (terms : PoolTerms) (p : Pool) : Prop :=
  ∀ r o, (r, TaskState.ended o) ∈ p.tasks → terms.cancellable = true →
    (r.attempt terms.facts).cancels = true → p.cancelled = true

theorem HeedsRules.steps
    (h : HeedsRules terms p)
    (events : List PoolEvent) :
    HeedsRules terms (p.steps terms events) := by
  induction events generalizing p with
  | nil => exact h
  | cons e es ih =>
    apply ih
    obtain hsame | ⟨i, r, -, -, -, heq⟩ | ⟨i, r, -, -, heq⟩ | ⟨-, heq⟩ := step_cases terms p e
    · rw [hsame]
      exact h
    · rw [heq]
      intro r' o hmem
      rcases mem_tasks_setState hmem with hold | hnew
      · exact h r' o hold
      · split at hnew <;> simp at hnew
    · rw [heq]
      intro r' o hmem hcancellable hcancels
      rcases mem_tasks_setState hmem with hold | hnew
      · simp [h r' o hold hcancellable hcancels]
      · simp only [Prod.mk.injEq, TaskState.ended.injEq] at hnew
        simp [← hnew.1, hcancellable, hcancels]
    · rw [heq]
      intro r' o hmem hcancellable hcancels
      simp [h r' o hmem hcancellable hcancels]

/-- A pool that is over was cancelled if it was so at the start, if the caller cancelled at any moment,
or if any of its rules cancels: that rule was run, or it was skipped because of another cancelling. -/
theorem cancelled_steps_iff
    {cancelled : Bool} {events : List PoolEvent}
    (hover : ((ofRules rules cancelled).steps terms events).isOver = true) :
    ((ofRules rules cancelled).steps terms events).cancelled = true ↔
      cancelled = true ∨ terms.cancellable = true ∧
        (.cancel ∈ events ∨ ∃ r ∈ rules, (r.attempt terms.facts).cancels = true) := by
  have hsound := sound_ofRules terms rules cancelled
  constructor
  · exact hsound.cancelled_steps_cases
  · rintro (hstart | ⟨hcancellable, hcaller | ⟨r, hr, hcancels⟩⟩)
    · exact cancelled_steps hstart events
    · exact cancelled_of_mem hcancellable hcaller
    · have hend := hsound.steps events
      have hheeds : HeedsRules terms (ofRules rules cancelled) := by
        intro r o hmem
        simp [ofRules] at hmem
      rw [← hend.rules_eq] at hr
      obtain ⟨⟨r, state⟩, htask, rfl⟩ := List.mem_map.mp hr
      have hstate : state.isOver = true := List.all_eq_true.mp hover (r, state) htask
      cases state with
      | waiting => cases hstate
      | running => cases hstate
      | skipped => exact hend.cancelled_of_skipped r htask
      | ended o => exact hheeds.steps events r o htask hcancellable hcancels

end Pool

namespace Evaluation

open Pool

/-- The task of a sound pool that is over and not cancelled has the conclusion of its rule. -/
theorem conclusion?_eq_some
    {terms : PoolTerms} {rules : List Rule} {p : Pool}
    (h : Sound terms rules p)
    (hover : p.isOver = true)
    (hcancelled : p.cancelled = false)
    {t : Rule × TaskState}
    (ht : t ∈ p.tasks) :
    t.2.conclusion? = some (t.1.attempt terms.facts).conclusion := by
  obtain ⟨r, s⟩ := t
  have hs : s.isOver = true := List.all_eq_true.mp hover (r, s) ht
  cases s with
  | waiting => simp [TaskState.isOver] at hs
  | running => simp [TaskState.isOver] at hs
  | skipped => simp [h.cancelled_of_skipped r ht] at hcancelled
  | ended c => simp [TaskState.conclusion?, h.conclusion_eq r c ht]

/-- A pool that is over and was not cancelled has the conclusions of its rules, in their order. -/
theorem conclusionsOf_eq
    {terms : PoolTerms} {rules : List Rule} {p : Pool}
    (h : Sound terms rules p)
    (hover : p.isOver = true)
    (hcancelled : p.cancelled = false) :
    conclusionsOf p = rules.map fun r => (r, (r.attempt terms.facts).conclusion) := by
  have heach : ∀ t ∈ p.tasks,
      t.2.conclusion?.map (fun c => (t.1, c)) =
        some (t.1, (t.1.attempt terms.facts).conclusion) := by
    intro t ht
    rw [conclusion?_eq_some h hover hcancelled ht]
    rfl
  unfold conclusionsOf
  rw [List.filterMap_eq_map_iff_forall_eq_some.mpr heach, ← h.rules_eq, List.map_map]
  rfl

end Evaluation
end RollupAudit
