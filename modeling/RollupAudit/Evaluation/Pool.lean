import RollupAudit.Rule.Basic

/-!
# Pools of workers

Rules that run side by side. Each rule is a task that waits, runs and ends; what happens in the pool
is a sequence of events, in any order that the workers bring about. A task that is taken up after
the evaluation was cancelled is skipped.
-/

namespace RollupAudit

/-- The state of a task. -/
inductive TaskState
  | waiting
  | running
  | skipped
  /-- The run of the task came to a conclusion. -/
  | ended (conclusion : Except EscapedError Outcome)

namespace TaskState

/-- Whether a worker has a task. -/
def isRunning : TaskState → Bool
  | .running => true
  | _ => false

/-- Whether nothing more happens to a task. -/
def isOver : TaskState → Bool
  | .skipped | .ended _ => true
  | _ => false

/-- The conclusion of a task that ended. -/
def conclusion? : TaskState → Option (Except EscapedError Outcome)
  | .ended c => some c
  | _ => none

end TaskState

/-- Something that happens in a pool. An event that is not possible has no effect. -/
inductive PoolEvent
  /-- A worker takes up a task. -/
  | start (task : Nat)
  /-- A task that runs comes to its end. -/
  | finish (task : Nat)
  /-- The caller cancels. -/
  | cancel
  deriving DecidableEq, Repr

/-- The events of tasks that are taken up and finished one after the other. -/
def PoolEvent.oneByOne (tasks : Nat) : List PoolEvent :=
  (List.range tasks).flatMap fun i => [.start i, .finish i]

/-- What a pool is told at its start. -/
structure PoolTerms where
  facts : Facts
  /-- Whether the evaluation can be cancelled. -/
  cancellable : Bool := false
  /-- Whether the time is limited, so that a run that lasts longer does not end. -/
  limited : Bool := false
  /-- The number of workers; none for as many as there are tasks. -/
  workers : Option Nat := none

/-- The tasks of a pool, and whether the evaluation is cancelled. -/
structure Pool where
  tasks : List (Rule × TaskState)
  cancelled : Bool := false

namespace Pool

/-- The pool in which all rules wait. -/
def ofRules (rules : List Rule) (cancelled : Bool) : Pool :=
  ⟨rules.map fun r => (r, .waiting), cancelled⟩

/-- The number of tasks that run. -/
def runningCount (p : Pool) : Nat := p.tasks.countP fun t => t.2.isRunning

/-- Whether a worker is free. -/
def hasFreeWorker (terms : PoolTerms) (p : Pool) : Bool :=
  terms.workers.all fun n => p.runningCount < n

/-- The pool with a task in another state. -/
def setState (p : Pool) (task : Nat) (r : Rule) (s : TaskState) : Pool :=
  { p with tasks := p.tasks.set task (r, s) }

/-- The pool after an event. -/
def step (terms : PoolTerms) (p : Pool) : PoolEvent → Pool
  | .start i =>
    match p.tasks[i]? with
    | some (r, .waiting) =>
      if p.hasFreeWorker terms then
        p.setState i r (if p.cancelled then .skipped else .running)
      else p
    | _ => p
  | .finish i =>
    match p.tasks[i]? with
    | some (r, .running) =>
      let a := r.attempt terms.facts
      if terms.limited && a.outlasts then p
      else
        { p.setState i r (.ended a.conclusion) with
          cancelled := p.cancelled || (terms.cancellable && a.cancels) }
    | _ => p
  | .cancel => { p with cancelled := p.cancelled || terms.cancellable }

/-- The pool after a sequence of events. -/
def steps (terms : PoolTerms) (p : Pool) (events : List PoolEvent) : Pool :=
  events.foldl (step terms) p

/-- Whether all tasks are over. -/
def isOver (p : Pool) : Bool := p.tasks.all fun t => t.2.isOver

end Pool
end RollupAudit
