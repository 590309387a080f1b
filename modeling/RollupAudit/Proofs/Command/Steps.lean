import RollupAudit.Command.Run
import RollupAudit.Proofs.Validation.Results

/-!
# The steps of a run

A run judges before it leaves anything behind. After that it can only fail at a file, which breaks it
off. So a run that tells of a failure has left nothing behind.

**Results.**
* `Command.run_of_judge_eq_error`, `Command.run_of_judge_eq_ok`: the ways in which a run can end.
* `Command.run_of_no_directories`: a run that only prints.
-/

namespace RollupAudit
namespace Command

variable {α β : Type} {t : FileTree} {env : Settings.Environment} {a : Arguments}
variable {host : Host} {facts : Facts} {report : Report}

namespace Step

/-- That a step fails at files only, if at all. -/
def FailsAtFiles (x : Step α) : Prop :=
  ∀ traces f traces', x traces = .error f traces' → ∃ fault, f = .file fault

theorem bind_apply
    (x : Step α)
    (g : α → Step β)
    (traces : Traces) :
    (x >>= g) traces =
      match x traces with
      | .ok b traces' => g b traces'
      | .error f traces' => .error f traces' := by
  change EStateM.bind x g traces = _
  unfold EStateM.bind
  cases x traces <;> rfl

theorem pure_apply
    (b : α)
    (traces : Traces) :
    (pure b : Step α) traces = .ok b traces :=
  rfl

theorem tree_apply
    (traces : Traces) :
    Step.tree traces = .ok traces.tree traces :=
  rfl

theorem print_apply
    (text : String)
    (traces : Traces) :
    Step.print text traces = .ok () { traces with output := traces.output ++ text } :=
  rfl

namespace FailsAtFiles

theorem pure
    (b : α) :
    FailsAtFiles (Pure.pure b) := by
  intro traces f traces' h
  cases h

theorem bind
    {x : Step α} {g : α → Step β}
    (hx : x.FailsAtFiles)
    (hg : ∀ b, (g b).FailsAtFiles) :
    (x >>= g).FailsAtFiles := by
  intro traces f traces' h
  rw [bind_apply] at h
  cases hresult : x traces with
  | ok b next =>
    rw [hresult] at h
    exact hg b next f traces' h
  | error f next =>
    rw [hresult] at h
    cases h
    exact hx _ _ _ hresult

theorem tree : FailsAtFiles Step.tree := by
  intro traces f traces' h
  cases h

theorem print
    (text : String) :
    (Step.print text).FailsAtFiles := by
  intro traces f traces' h
  cases h

theorem compute
    {x : Except Failure α}
    (hx : ∀ f, x = .error f → ∃ fault, f = .file fault) :
    (Step.compute x).FailsAtFiles := by
  intro traces f traces' h
  cases x with
  | ok b => cases h
  | error f =>
    cases h
    exact hx f rfl

theorem change
    (f : FileTree → Except FileFault FileTree) :
    (Step.change f).FailsAtFiles := by
  refine tree.bind fun t => (compute fun failure h => ?_).bind fun changed => ?_
  · cases hchanged : f t with
    | ok changed => simp [hchanged] at h
    | error fault => exact ⟨fault, by simpa [hchanged, eq_comm] using h⟩
  · intro traces f traces' h
    cases h

theorem forM
    {xs : List β} {g : β → Step PUnit}
    (hg : ∀ b, (g b).FailsAtFiles) :
    (xs.forM g).FailsAtFiles := by
  induction xs with
  | nil => exact pure _
  | cons x xs ih => exact (hg x).bind fun _ => ih

end FailsAtFiles
end Step

theorem resolve_eq_error
    {s : String} {f : Failure}
    (h : resolve t s = .error f) :
    ∃ fault, f = .file fault := by
  simp only [resolve] at h
  split at h
  · cases h
    exact ⟨_, rfl⟩
  · cases h

theorem resolveGiven_eq_error
    {s : Option String} {f : Failure}
    (h : resolveGiven t s = .error f) :
    ∃ fault, f = .file fault := by
  unfold resolveGiven at h
  cases hs : given s with
  | none =>
    rw [hs] at h
    cases h
  | some s =>
    rw [hs] at h
    cases hp : resolve t s with
    | ok p => simp [hp] at h
    | error g =>
      obtain rfl : g = f := by simpa [hp] using h
      exact resolve_eq_error hp

theorem failsAtFiles_present
    (now : String)
    (a : Arguments)
    (facts : Facts)
    (report : Report) :
    (present now a facts report).FailsAtFiles := by
  have hdirectory (t : FileTree) : (Step.compute (resolveGiven t a.outputDirectory)).FailsAtFiles :=
    .compute fun f hf => resolveGiven_eq_error hf
  refine .bind .tree fun t => .bind (hdirectory t) fun directory => ?_
  cases directory with
  | none => exact .print _
  | some directory =>
    refine .bind (.change _) fun _ => .forM fun file => ?_
    exact .bind (.change _) fun _ => .print _

theorem failsAtFiles_keep
    (a : Arguments)
    (facts : Facts)
    (report : Report) :
    (keep a facts report).FailsAtFiles := by
  have hroot (t : FileTree) : (Step.compute (resolveGiven t a.snapshotDirectory)).FailsAtFiles :=
    .compute fun f hf => resolveGiven_eq_error hf
  refine .bind .tree fun t => .bind (hroot t) fun root => ?_
  cases root with
  | none => exact .pure _
  | some root => exact .bind (.change _) fun _ => .change _

/-- A run that cannot judge fails, and has left nothing behind. -/
theorem run_of_judge_eq_error
    {f : Failure}
    (now : String)
    (h : judge t env a host = .error f) :
    run env now a host { tree := t } = .error f { tree := t } := by
  simp only [run, Step.bind_apply, Step.tree_apply, h, Step.compute]

/-- A run that has judged fails at files only, and else tells whether the report alarms. -/
theorem run_of_judge_eq_ok
    (now : String)
    (h : judge t env a host = .ok (facts, report)) :
    (∃ traces, run env now a host { tree := t } =
        .ok (report.hasFindingAtLeast a.failOn) traces) ∨
      ∃ fault traces, run env now a host { tree := t } = .error (.file fault) traces := by
  simp only [run, Step.bind_apply, Step.tree_apply, h, Step.compute]
  -- What is left of the run after judging fails at files only, whatever was left behind until then.
  cases hpresent : present now a facts report { tree := t } with
  | error f traces =>
    obtain ⟨fault, rfl⟩ := failsAtFiles_present now a facts report _ _ _ hpresent
    exact .inr ⟨fault, traces, rfl⟩
  | ok _ traces =>
    cases hkeep : keep a facts report traces with
    | error f traces' =>
      obtain ⟨fault, rfl⟩ := failsAtFiles_keep a facts report _ _ _ hkeep
      exact .inr ⟨fault, traces', by simp [hkeep]⟩
    | ok _ traces' => exact .inl ⟨traces', by simp only [hkeep]; rfl⟩

theorem present_of_no_directory
    (now : String)
    (facts : Facts)
    (report : Report)
    (h : given a.outputDirectory = none) :
    present now a facts report = Step.print (printed a facts report) := by
  unfold present resolveGiven
  rw [h]
  rfl

theorem keep_of_no_directory
    (facts : Facts)
    (report : Report)
    (h : given a.snapshotDirectory = none) :
    keep a facts report = pure () := by
  unfold keep resolveGiven
  rw [h]
  rfl

/-- A run that is given no directories prints its report and does nothing else. -/
theorem run_of_no_directories
    (now : String)
    (h : judge t env a host = .ok (facts, report))
    (houtput : given a.outputDirectory = none)
    (hsnapshot : given a.snapshotDirectory = none) :
    run env now a host { tree := t } =
      .ok (report.hasFindingAtLeast a.failOn) { output := printed a facts report, tree := t } := by
  simp only [run, Step.bind_apply, Step.tree_apply, h, Step.compute,
    present_of_no_directory _ _ _ houtput, keep_of_no_directory _ _ hsnapshot, Step.print_apply,
    Step.pure_apply, String.empty_append]

end Command
end RollupAudit
