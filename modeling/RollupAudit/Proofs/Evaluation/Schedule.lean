import Mathlib.Data.List.Perm.Subperm
import RollupAudit.Proofs.Evaluation.Pool

/-!
# Schedules

A schedule is one of the ways in which the workers of a pool can go about its tasks: each task is
taken up once, while fewer tasks run than there are workers, and finished once, after it was taken
up. There are no other conditions, so the tasks may be taken up and finished in any order and
interleaved in any way. In an interleaving the caller moreover cancels at any moments. What a rule does
to the evaluation before it ends is an event of the same kind.

**Results.**
* `isSchedule_oneByOne`: there is a schedule whenever there is a worker.
* `Pool.isOver_of_isInterleaving`: a pool is over after every interleaving.
* `Pool.isOver_of_isSchedule`: a pool that nobody cancels is over after every schedule, and not cancelled.
-/

namespace RollupAudit

/-- Whether events take up and finish the tasks that wait and those that run, each once. -/
def continuesSchedule (workers : Option Nat) (waiting running : List Nat) :
    List PoolEvent → Bool
  | [] => waiting.isEmpty && running.isEmpty
  | .start i :: events =>
    waiting.contains i && (workers.all fun n => running.length < n) &&
      continuesSchedule workers (waiting.erase i) (i :: running) events
  | .finish i :: events =>
    running.contains i && continuesSchedule workers waiting (running.erase i) events
  | .cancel :: _ => false

/-- Whether events take up and finish a number of tasks, each once. -/
def isSchedule (tasks : Nat) (workers : Option Nat) (events : List PoolEvent) : Bool :=
  continuesSchedule workers (List.range tasks) [] events

/-- Whether events take up and finish a number of tasks, each once, while the caller cancels at any
moments. A task that is skipped is finished too, for its worker comes back from it. -/
def isInterleaving (tasks : Nat) (workers : Option Nat) (events : List PoolEvent) : Bool :=
  isSchedule tasks workers (events.filter fun e => e ≠ .cancel)

theorem cancel_notMem_of_continuesSchedule
    {workers : Option Nat} {events : List PoolEvent} :
    ∀ {waiting running : List Nat}, continuesSchedule workers waiting running events = true →
      .cancel ∉ events := by
  induction events with
  | nil => simp
  | cons e events ih =>
    intro waiting running h
    cases e with
    | start i => simpa using ih (Bool.and_eq_true_iff.mp h).2
    | finish i => simpa using ih (Bool.and_eq_true_iff.mp h).2
    | cancel => cases h

/-- Nobody cancels in a schedule. -/
theorem filter_cancel_of_isSchedule
    {tasks : Nat} {workers : Option Nat} {events : List PoolEvent}
    (h : isSchedule tasks workers events = true) :
    (events.filter fun e => e ≠ .cancel) = events := by
  have hnone : .cancel ∉ events := cancel_notMem_of_continuesSchedule h
  exact List.filter_eq_self.mpr fun e he => decide_eq_true fun heq => hnone (heq ▸ he)

/-- The tasks of a list are taken up and finished one by one. -/
theorem continuesSchedule_oneByOne
    {workers : Option Nat}
    (hworkers : ∀ n, workers = some n → 0 < n) :
    ∀ waiting : List Nat,
      continuesSchedule workers waiting [] (waiting.flatMap fun i => [.start i, .finish i]) = true
  | [] => rfl
  | i :: waiting => by
    have ih := continuesSchedule_oneByOne hworkers waiting
    have hfree : (workers.all fun n => decide (0 < n)) = true := by
      cases workers with
      | none => rfl
      | some n => simpa using hworkers n rfl
    simp [continuesSchedule, hfree, ih]

/-- As long as there is a worker, the tasks can be taken up and finished one after the other. -/
theorem isSchedule_oneByOne
    {workers : Option Nat}
    (hworkers : ∀ n, workers = some n → 0 < n)
    (tasks : Nat) :
    isSchedule tasks workers (PoolEvent.oneByOne tasks) = true :=
  continuesSchedule_oneByOne hworkers (List.range tasks)

namespace Pool

variable {terms : PoolTerms} {p : Pool} {waiting taken : List Nat}

/-- Which tasks of a pool wait, and which were taken up and not finished since. A task that was skipped
counts as taken up until its turn to finish comes, although it does not run. -/
structure Tracks (p : Pool) (waiting taken : List Nat) : Prop where
  mem_waiting_iff : ∀ i, i ∈ waiting ↔ ∃ r, p.tasks[i]? = some (r, .waiting)
  mem_taken : ∀ i r, p.tasks[i]? = some (r, .running) → i ∈ taken
  nodup_waiting : waiting.Nodup

/-- At the start all tasks wait. -/
theorem tracks_ofRules
    (rules : List Rule)
    (cancelled : Bool) :
    Tracks (ofRules rules cancelled) (List.range rules.length) [] where
  mem_waiting_iff i := by
    simp only [ofRules, List.mem_range, List.getElem?_map, Option.map_eq_some_iff, Prod.mk.injEq,
      and_true]
    constructor
    · intro hlt
      exact ⟨rules[i], rules[i], List.getElem?_eq_getElem hlt, rfl⟩
    · rintro ⟨r, r', hget, -⟩
      exact (List.getElem?_eq_some_iff.mp hget).1
  mem_taken i r h := by simp [ofRules] at h
  nodup_waiting := List.nodup_range

theorem getElem?_tasks_setState
    {i j : Nat} {r : Rule} {s t : TaskState}
    (htask : p.tasks[i]? = some (r, s)) :
    (p.setState i r t).tasks[j]? = if i = j then some (r, t) else p.tasks[j]? := by
  obtain ⟨hlt, _⟩ := List.getElem?_eq_some_iff.mp htask
  simp [setState, List.getElem?_set, hlt]

/-- No more items satisfy a condition than there are in a list of all their places. -/
theorem countP_le_length_of_places
    {α : Type} {c : α → Bool} {as : List α} {places : List Nat}
    (h : ∀ i a, as[i]? = some a → c a = true → i ∈ places) :
    as.countP c ≤ places.length := by
  have hplaces : ((as.zipIdx.filter fun e => c e.1).map Prod.snd).Nodup := by
    refine List.Nodup.sublist (List.filter_sublist.map Prod.snd) ?_
    rw [List.zipIdx_map_snd]
    exact List.nodup_range'
  have hsubset : (as.zipIdx.filter fun e => c e.1).map Prod.snd ⊆ places := by
    intro i hi
    obtain ⟨⟨a, j⟩, hmem, rfl⟩ := List.mem_map.mp hi
    obtain ⟨hget, hc⟩ := List.mem_filter.mp hmem
    exact h j a (List.mem_zipIdx_iff_getElem?.mp hget) hc
  have hcount : as.countP c = ((as.zipIdx.filter fun e => c e.1).map Prod.snd).length := by
    rw [List.length_map, ← List.countP_eq_length_filter]
    conv_lhs => rw [← List.zipIdx_map_fst 0 as, List.countP_map]
    rfl
  rw [hcount]
  exact (List.Nodup.subperm hplaces hsubset).length_le

/-- As long as fewer tasks are taken up than there are workers, a worker is free. -/
theorem Tracks.hasFreeWorker
    (h : Tracks p waiting taken)
    (hfree : (terms.workers.all fun n => taken.length < n) = true) :
    p.hasFreeWorker terms = true := by
  have hcount : p.runningCount ≤ taken.length := by
    refine countP_le_length_of_places ?_
    rintro i ⟨r, s⟩ hget hs
    cases s with
    | running => exact h.mem_taken i r hget
    | _ => cases hs
  unfold Pool.hasFreeWorker
  cases hworkers : terms.workers with
  | none => rfl
  | some n =>
    rw [hworkers] at hfree
    simp only [Option.all_some, decide_eq_true_eq] at hfree ⊢
    omega

/-- A worker that is free takes up a task that waits. -/
theorem Tracks.start
    (h : Tracks p waiting taken)
    {i : Nat}
    (hi : i ∈ waiting)
    (hfree : (terms.workers.all fun n => taken.length < n) = true) :
    Tracks (p.step terms (.start i)) (waiting.erase i) (i :: taken) := by
  obtain ⟨r, htask⟩ := (h.mem_waiting_iff i).mp hi
  have hstep : p.step terms (.start i) =
      p.setState i r (if p.cancelled then .skipped else .running) := by
    simp [step, htask, h.hasFreeWorker hfree]
  rw [hstep]
  refine ⟨?_, ?_, h.nodup_waiting.erase i⟩
  · intro j
    rw [h.nodup_waiting.mem_erase_iff, h.mem_waiting_iff j, getElem?_tasks_setState htask]
    split
    · rename_i heq
      subst heq
      split <;> simp
    · rename_i hne
      simp [Ne.symm hne]
  · intro j r' hrunning
    rw [getElem?_tasks_setState htask] at hrunning
    split at hrunning
    · rename_i heq
      exact heq ▸ List.mem_cons_self
    · exact List.mem_cons_of_mem i (h.mem_taken j r' hrunning)

/-- A task that was taken up is finished. -/
theorem Tracks.finish
    (h : Tracks p waiting taken)
    (i : Nat)
    (hlimited : terms.limited = false) :
    Tracks (p.step terms (.finish i)) waiting (taken.erase i) := by
  by_cases hruns : ∃ r, p.tasks[i]? = some (r, .running)
  · obtain ⟨r, htask⟩ := hruns
    have hstep (j : Nat) : (p.step terms (.finish i)).tasks[j]? =
        if i = j then some (r, .ended (r.attempt terms.facts).conclusion) else p.tasks[j]? := by
      rw [← getElem?_tasks_setState htask]
      simp only [step, htask, hlimited, Bool.false_and, Bool.false_eq_true, if_false]
    refine ⟨fun j => ?_, fun j r' hrunning => ?_, h.nodup_waiting⟩
    · rw [h.mem_waiting_iff j, hstep j]
      split
      · simp_all
      · rfl
    · rw [hstep j] at hrunning
      split at hrunning
      · cases hrunning
      · rename_i hne
        exact (List.mem_erase_of_ne (Ne.symm hne)).mpr (h.mem_taken j r' hrunning)
  · -- The task was skipped, and nothing happens.
    have hstep : p.step terms (.finish i) = p := by
      simp only [step]
      split
      · rename_i r htask
        exact absurd ⟨r, htask⟩ hruns
      · rfl
    rw [hstep]
    refine ⟨h.mem_waiting_iff, fun j r hrunning => ?_, h.nodup_waiting⟩
    refine (List.mem_erase_of_ne ?_).mpr (h.mem_taken j r hrunning)
    rintro rfl
    exact hruns ⟨r, hrunning⟩

/-- An interleaving leaves no task waiting or running. -/
theorem Tracks.steps
    (hlimited : terms.limited = false)
    {events : List PoolEvent}
    (h : Tracks p waiting taken)
    (hevents : continuesSchedule terms.workers waiting taken
      (events.filter fun e => e ≠ .cancel) = true) :
    Tracks (p.steps terms events) [] [] := by
  induction events generalizing p waiting taken with
  | nil =>
    simp only [List.filter_nil, continuesSchedule, Bool.and_eq_true, List.isEmpty_iff] at hevents
    obtain ⟨rfl, rfl⟩ := hevents
    exact h
  | cons e events ih =>
    cases e with
    | start i =>
      simp only [ne_eq, reduceCtorEq, not_false_eq_true, decide_true, List.filter_cons_of_pos,
        continuesSchedule, Bool.and_eq_true, List.contains_iff_mem] at hevents
      exact ih (h.start hevents.1.1 hevents.1.2) hevents.2
    | finish i =>
      simp only [ne_eq, reduceCtorEq, not_false_eq_true, decide_true, List.filter_cons_of_pos,
        continuesSchedule, Bool.and_eq_true] at hevents
      exact ih (h.finish i hlimited) hevents.2
    | cancel =>
      have hsame : Tracks (p.step terms .cancel) waiting taken :=
        ⟨h.mem_waiting_iff, h.mem_taken, h.nodup_waiting⟩
      exact ih hsame (by simpa using hevents)

/-- A pool in which no task waits or runs is over. -/
theorem Tracks.isOver (h : Tracks p [] []) : p.isOver = true := by
  apply List.all_eq_true.mpr
  rintro ⟨r, s⟩ hmem
  obtain ⟨i, hget⟩ := List.mem_iff_getElem?.mp hmem
  cases s with
  | waiting => exact absurd ((h.mem_waiting_iff i).mpr ⟨r, hget⟩) List.not_mem_nil
  | running => exact absurd (h.mem_taken i r hget) List.not_mem_nil
  | skipped => rfl
  | ended c => rfl

/-- After an interleaving a pool without a time limit is over, whatever has cancelled it. -/
theorem isOver_of_isInterleaving
    {rules : List Rule} {cancelled : Bool} {events : List PoolEvent}
    (hlimited : terms.limited = false)
    (hevents : isInterleaving rules.length terms.workers events = true) :
    ((ofRules rules cancelled).steps terms events).isOver = true :=
  ((tracks_ofRules rules cancelled).steps hlimited hevents).isOver

/-- After a schedule a pool without a time limit in which no rule cancels is over. -/
theorem isOver_of_isSchedule
    {rules : List Rule} {events : List PoolEvent}
    (hlimited : terms.limited = false)
    (hcancels : ∀ r ∈ rules, (terms.cancellable && (r.attempt terms.facts).cancels) = false)
    (hevents : isSchedule rules.length terms.workers events = true) :
    ((ofRules rules false).steps terms events).isOver = true ∧
      ((ofRules rules false).steps terms events).cancelled = false := by
  have hsame := filter_cancel_of_isSchedule hevents
  have hover : ((ofRules rules false).steps terms events).isOver = true :=
    isOver_of_isInterleaving hlimited (by rwa [isInterleaving, hsame])
  refine ⟨hover, Bool.eq_false_iff.mpr fun hcancelled => ?_⟩
  rcases (cancelled_steps_iff hover).mp hcancelled with hstart | ⟨hcancellable, hcaller | ⟨r, hr, hrule⟩⟩
  · cases hstart
  · exact cancel_notMem_of_continuesSchedule hevents hcaller
  · simpa [hcancellable, hrule] using hcancels r hr

end Pool
end RollupAudit
