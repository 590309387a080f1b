import RollupAudit.Snapshot.Selection

/-!
# The selected snapshot

Of the snapshots of a chain that are not observed after a time, the first of the latest ones is
selected: those before it are earlier, and those after it are not later. A later time leaves no snapshot
out, so that what is selected by it was observed no earlier.

**Results.**
* `Snapshot.select?_eq_some_iff`, `Snapshot.select?_eq_none_iff`: what is selected, and when nothing is.
* `Snapshot.exists_select?_of_extends`: the selection by a later time.
-/

namespace RollupAudit
namespace Snapshot

variable {fs : List Facts} {f g : Facts} {chain : String} {by_ by' : Option Timestamp}

/-- That a snapshot counts: it is of the chain, and not observed after the time if one is given. -/
def Counts (chain : String) (by_ : Option Timestamp) (f : Facts) : Prop :=
  f.chainId = chain ∧ ∀ t ∈ by_, (f.observedAt.micros : Int) ≤ t.utcMicros

theorem isCandidate_eq_true_iff :
    isCandidate chain by_ f = true ↔ Counts chain by_ f := by
  cases by_ <;> simp [isCandidate, Counts]

/-- That a snapshot is the first of the latest: all before it are earlier, and none after it is later. -/
def IsFirstLatest (fs : List Facts) (f : Facts) : Prop :=
  ∃ before after, fs = before ++ f :: after ∧
    (∀ g ∈ before, g.observedAt.micros < f.observedAt.micros) ∧
    ∀ g ∈ after, g.observedAt.micros ≤ f.observedAt.micros

namespace IsFirstLatest

theorem le_of_mem
    (h : IsFirstLatest fs f)
    (hg : g ∈ fs) :
    g.observedAt.micros ≤ f.observedAt.micros := by
  obtain ⟨before, after, rfl, hbefore, hafter⟩ := h
  rcases List.mem_append.mp hg with hg | hg
  · exact Nat.le_of_lt (hbefore g hg)
  · rcases List.mem_cons.mp hg with rfl | hg
    · exact Nat.le_refl _
    · exact hafter g hg

/-- A list has one first latest snapshot: of two, each stands at or before the other. -/
theorem unique
    (hf : IsFirstLatest fs f)
    (hg : IsFirstLatest fs g) :
    f = g := by
  obtain ⟨before, after, hfs, hbefore, hafter⟩ := hf
  obtain ⟨before', after', hgs, hbefore', hafter'⟩ := hg
  rw [hfs, List.append_eq_append_iff] at hgs
  rcases hgs with ⟨between, rfl, h⟩ | ⟨between, rfl, h⟩
  · cases between with
    | nil => exact (List.cons.inj h).1
    | cons x between =>
      -- The first stands before the second, which is then later than the first and yet not later.
      obtain ⟨rfl, rfl⟩ := List.cons.inj h
      have hlt := hbefore' f (by simp)
      have hle := hafter g (by simp)
      omega
  · cases between with
    | nil => exact (List.cons.inj h).1.symm
    | cons x between =>
      obtain ⟨rfl, rfl⟩ := List.cons.inj h
      have hlt := hbefore g (by simp)
      have hle := hafter' f (by simp)
      omega

/-- An earlier snapshot in front does not change which one is the first latest. -/
theorem cons_of_lt
    (h : IsFirstLatest fs f)
    (hg : g.observedAt.micros < f.observedAt.micros) :
    IsFirstLatest (g :: fs) f := by
  obtain ⟨before, after, rfl, hbefore, hafter⟩ := h
  refine ⟨g :: before, after, rfl, fun x hx => ?_, hafter⟩
  rcases List.mem_cons.mp hx with rfl | hx
  · exact hg
  · exact hbefore x hx

/-- A snapshot that is no later than the one before it does not change which one is the first latest. -/
theorem insert_of_le
    {x : Facts}
    (h : IsFirstLatest (x :: fs) f)
    (hg : g.observedAt.micros ≤ x.observedAt.micros) :
    IsFirstLatest (x :: g :: fs) f := by
  have hx := h.le_of_mem List.mem_cons_self
  obtain ⟨before, after, hfs, hbefore, hafter⟩ := h
  cases before with
  | nil =>
    obtain ⟨rfl, rfl⟩ := List.cons.inj hfs
    refine ⟨[], g :: fs, rfl, by simp, fun y hy => ?_⟩
    rcases List.mem_cons.mp hy with rfl | hy
    · exact hg
    · exact hafter y hy
  | cons y before =>
    obtain ⟨rfl, rfl⟩ := List.cons.inj hfs
    have hlt := hbefore x List.mem_cons_self
    refine ⟨x :: g :: before, after, rfl, fun y hy => ?_, hafter⟩
    simp only [List.mem_cons] at hy
    rcases hy with rfl | rfl | hy
    · exact hlt
    · exact Nat.lt_of_le_of_lt hg hlt
    · exact hbefore y (List.mem_cons_of_mem x hy)

end IsFirstLatest

/-- The one that is kept as the later of two, one after the other, is the first latest. -/
theorem isFirstLatest_foldl
    (f : Facts)
    (fs : List Facts) :
    IsFirstLatest (f :: fs) (fs.foldl later f) := by
  induction fs generalizing f with
  | nil => exact ⟨[], [], rfl, by simp, by simp⟩
  | cons g fs ih =>
    rw [List.foldl_cons]
    unfold later
    split
    · rename_i hlater
      have h := ih g
      exact h.cons_of_lt (Nat.lt_of_lt_of_le hlater (h.le_of_mem List.mem_cons_self))
    · rename_i hlater
      exact (ih f).insert_of_le (Nat.le_of_not_lt hlater)

theorem latest?_eq_some_iff :
    latest? fs = some f ↔ IsFirstLatest fs f := by
  cases fs with
  | nil => simp [latest?, IsFirstLatest]
  | cons g fs =>
    have h := isFirstLatest_foldl g fs
    rw [latest?, Option.some.injEq]
    exact ⟨fun heq => heq ▸ h, fun hf => h.unique hf⟩

/-- That a snapshot is the one to judge: it counts, the snapshots before it that count are earlier, and
those after it that count are not later. -/
def IsSelected (fs : List Facts) (chain : String) (by_ : Option Timestamp) (f : Facts) : Prop :=
  ∃ before after, fs = before ++ f :: after ∧ Counts chain by_ f ∧
    (∀ g ∈ before, Counts chain by_ g → g.observedAt.micros < f.observedAt.micros) ∧
    ∀ g ∈ after, Counts chain by_ g → g.observedAt.micros ≤ f.observedAt.micros

/-- A snapshot is selected exactly if it is the first latest of those that count. -/
theorem select?_eq_some_iff :
    select? fs chain by_ = some f ↔ IsSelected fs chain by_ f := by
  rw [select?, latest?_eq_some_iff]
  constructor
  · rintro ⟨before, after, hfs, hbefore, hafter⟩
    obtain ⟨before', rest, rfl, rfl, hrest⟩ := List.filter_eq_append_iff.mp hfs
    obtain ⟨skipped, after', rfl, hskipped, hf, rfl⟩ := List.filter_eq_cons_iff.mp hrest
    refine ⟨before' ++ skipped, after', by simp, isCandidate_eq_true_iff.mp hf, ?_, ?_⟩
    · intro g hg hcounts
      have hg' := isCandidate_eq_true_iff.mpr hcounts
      rcases List.mem_append.mp hg with hg | hg
      · exact hbefore g (List.mem_filter.mpr ⟨hg, hg'⟩)
      · exact absurd hg' (hskipped g hg)
    · exact fun g hg hcounts =>
        hafter g (List.mem_filter.mpr ⟨hg, isCandidate_eq_true_iff.mpr hcounts⟩)
  · rintro ⟨before, after, rfl, hf, hbefore, hafter⟩
    refine ⟨before.filter (isCandidate chain by_), after.filter (isCandidate chain by_), ?_, ?_, ?_⟩
    · rw [List.filter_append, List.filter_cons_of_pos (isCandidate_eq_true_iff.mpr hf)]
    · intro g hg
      obtain ⟨hg, hcounts⟩ := List.mem_filter.mp hg
      exact hbefore g hg (isCandidate_eq_true_iff.mp hcounts)
    · intro g hg
      obtain ⟨hg, hcounts⟩ := List.mem_filter.mp hg
      exact hafter g hg (isCandidate_eq_true_iff.mp hcounts)

/-- Nothing is selected exactly if no snapshot counts. -/
theorem select?_eq_none_iff :
    select? fs chain by_ = none ↔ ∀ f ∈ fs, ¬ Counts chain by_ f := by
  have hlatest (gs : List Facts) : latest? gs = none ↔ gs = [] := by
    cases gs <;> simp [latest?]
  rw [select?, hlatest, List.filter_eq_nil_iff]
  simp only [isCandidate_eq_true_iff]

/-- That a time is not before another one; without a time all snapshots count. -/
def Extends (by' by_ : Option Timestamp) : Prop :=
  ∀ t' ∈ by', ∃ t ∈ by_, t.utcMicros ≤ t'.utcMicros

theorem Counts.extend
    (h : Counts chain by_ f)
    (hextends : Extends by' by_) :
    Counts chain by' f := by
  refine ⟨h.1, fun t' ht' => ?_⟩
  obtain ⟨t, ht, hle⟩ := hextends t' ht'
  exact Int.le_trans (h.2 t ht) hle

/-- By a later time a snapshot is still selected, and it was observed no earlier. -/
theorem exists_select?_of_extends
    (hextends : Extends by' by_)
    (h : select? fs chain by_ = some f) :
    ∃ g, select? fs chain by' = some g ∧ f.observedAt.micros ≤ g.observedAt.micros := by
  obtain ⟨before, after, hfs, hf, -, -⟩ := select?_eq_some_iff.mp h
  have hmem : f ∈ fs := by simp [hfs]
  have hcounts := hf.extend hextends
  cases hg : select? fs chain by' with
  | none => exact absurd hcounts (select?_eq_none_iff.mp hg f hmem)
  | some g =>
    refine ⟨g, rfl, ?_⟩
    have hlatest := latest?_eq_some_iff.mp hg
    exact hlatest.le_of_mem (List.mem_filter.mpr ⟨hmem, isCandidate_eq_true_iff.mpr hcounts⟩)

end Snapshot
end RollupAudit
