import Mathlib.Algebra.BigOperators.Ring.Finset
import Mathlib.Data.List.Nodup
import RollupAudit.Proofs.Report.Counts
import RollupAudit.Proofs.Report.Dedupe
import RollupAudit.Proofs.Report.Groups
import RollupAudit.Report.Markdown

/-!
# Agreement within a report

The counts, the groups, the worst severity and the document of a report are each computed from its
findings on their own. In the report of any findings they agree: whatever is counted is what is
grouped and shown, and nothing is counted or shown twice.

**Results.**
* `Report.worst?_eq_find?`: the worst severity is the first one, from the most severe down, that any
  finding has.
* `Report.listsBy_categoriesOf`: the groups and the document of findings in order.
* `aggregate_agrees`: all that agrees in the report of findings.
-/

namespace RollupAudit

/-! ## The worst severity -/

namespace Report

variable {r : Report}

theorem rank_moreSevere (s t : Severity) : (moreSevere s t).rank = max s.rank t.rank := by
  unfold moreSevere
  split <;> omega

/-- Of severities that are compared one after another the greatest is left. -/
theorem rank_foldl_moreSevere
    (fs : List Finding)
    (s : Severity) :
    s.rank ≤ (fs.foldl (fun s f => moreSevere s f.severity) s).rank ∧
      ∀ f ∈ fs, f.severity.rank ≤ (fs.foldl (fun s f => moreSevere s f.severity) s).rank := by
  induction fs generalizing s with
  | nil => simp
  | cons g fs ih =>
    obtain ⟨hstart, hrest⟩ := ih (moreSevere s g.severity)
    rw [rank_moreSevere] at hstart
    simp only [List.foldl_cons, List.mem_cons, forall_eq_or_imp]
    exact ⟨by omega, by omega, hrest⟩

theorem foldl_moreSevere_mem
    (fs : List Finding)
    (s : Severity) :
    (fs.foldl (fun s f => moreSevere s f.severity) s) = s ∨
      ∃ f ∈ fs, f.severity = fs.foldl (fun s f => moreSevere s f.severity) s := by
  induction fs generalizing s with
  | nil => exact .inl rfl
  | cons g fs ih =>
    simp only [List.foldl_cons, List.mem_cons, exists_eq_or_imp]
    rcases ih (moreSevere s g.severity) with heq | hmem
    · rw [heq]
      unfold moreSevere
      split
      · exact .inr (.inl rfl)
      · exact .inl rfl
    · exact .inr (.inr hmem)

/-- A severity is the worst if a finding has it and none has a higher one. -/
theorem worst?_eq_some_iff
    {s : Severity} :
    r.worst? = some s ↔
      (∃ f ∈ r.findings, f.severity = s) ∧ ∀ f ∈ r.findings, f.severity.rank ≤ s.rank := by
  unfold worst?
  cases r.findings with
  | nil => simp
  | cons g fs =>
    let worst := fs.foldl (fun s f => moreSevere s f.severity) g.severity
    have hbound : ∀ f ∈ g :: fs, f.severity.rank ≤ worst.rank :=
      List.forall_mem_cons.mpr (rank_foldl_moreSevere fs g.severity)
    have hmem : ∃ f ∈ g :: fs, f.severity = worst := by
      rcases foldl_moreSevere_mem fs g.severity with heq | ⟨f, hf, heq⟩
      · exact ⟨g, List.mem_cons_self, heq.symm⟩
      · exact ⟨f, List.mem_cons_of_mem g hf, heq⟩
    constructor
    · rintro ⟨⟩
      exact ⟨hmem, hbound⟩
    · rintro ⟨⟨f, hf, rfl⟩, hs⟩
      obtain ⟨f', hf', hworst⟩ := hmem
      have hle := hbound f hf
      have hge := hs f' hf'
      rw [hworst] at hge
      exact congrArg some (Severity.rank_injective (Nat.le_antisymm hge hle))

theorem worst?_eq_none_iff : r.worst? = none ↔ r.findings = [] := by
  unfold worst?
  cases r.findings <;> simp

/-- Whether a finding is at or above a severity is seen from the worst one. -/
theorem hasFindingAtLeast_iff
    {s : Severity} :
    r.hasFindingAtLeast s = true ↔ ∃ f ∈ r.findings, f.severity.atLeast s = true := by
  simp only [hasFindingAtLeast, Option.any_eq_true, Severity.atLeast_iff]
  constructor
  · rintro ⟨worst, hworst, hs⟩
    obtain ⟨⟨f, hf, rfl⟩, -⟩ := worst?_eq_some_iff.mp hworst
    exact ⟨f, hf, hs⟩
  · rintro ⟨f, hf, hs⟩
    cases hworst : r.worst? with
    | none => simp [worst?_eq_none_iff.mp hworst] at hf
    | some worst => exact ⟨worst, rfl, hs.trans ((worst?_eq_some_iff.mp hworst).2 f hf)⟩

/-- The worst severity is the first one, from the most severe down, that any finding has. -/
theorem worst?_eq_find?
    (r : Report) :
    r.worst? = Severity.descending.find? fun s => decide (0 < countSeverity s r.findings) := by
  have hcount (s : Severity) : 0 < countSeverity s r.findings ↔ ∃ f ∈ r.findings, f.severity = s := by
    simp [countSeverity, List.countP_pos_iff]
  have hdescending : Severity.descending.Pairwise fun s t => t.rank ≤ s.rank := by decide
  cases hfind : Severity.descending.find? fun s => decide (0 < countSeverity s r.findings) with
  | none =>
    rw [worst?_eq_none_iff, List.eq_nil_iff_forall_not_mem]
    intro f hf
    have hnone := List.find?_eq_none.mp hfind f.severity (by cases f.severity <;> decide)
    simp only [decide_eq_true_eq, hcount] at hnone
    exact hnone ⟨f, hf, rfl⟩
  | some s =>
    obtain ⟨hs, before, after, heq, hbefore⟩ := List.find?_eq_some_iff_append.mp hfind
    refine worst?_eq_some_iff.mpr ⟨(hcount s).mp (of_decide_eq_true hs), fun f hf => ?_⟩
    have hmem : f.severity ∈ before ++ s :: after := heq ▸ by cases f.severity <;> decide
    rw [heq] at hdescending
    obtain ⟨-, hafter, -⟩ := List.pairwise_append.mp hdescending
    rcases List.mem_append.mp hmem with hmem | hmem
    · have hnone := hbefore f.severity hmem
      simp only [Bool.not_eq_eq_eq_not, Bool.not_true, decide_eq_false_iff_not, hcount] at hnone
      exact absurd ⟨f, hf, rfl⟩ hnone
    · rcases List.mem_cons.mp hmem with heq | hmem
      · rw [heq]
      · exact (List.pairwise_cons.mp hafter).1 _ hmem

/-! ## Groups and document -/

/-- That a report counts, groups and shows its findings by categories: the lines of its document after
the head and the totals are a heading for each category and, below it, a block for each of its
findings. -/
structure ListsBy (r : Report) (cs : List Category) : Prop where
  ascending : Category.Ascending cs
  mem_iff : ∀ c, c ∈ cs ↔ ∃ f ∈ r.findings, f.category = c
  byCategory_eq : r.summary.byCategory =
    cs.map fun c => (c.name, ((r.findings.countP fun f => f.category = c : Nat) : Int))
  byCategory_pos : ∀ e ∈ r.summary.byCategory, 0 < e.2
  groups_eq : r.groups = cs.map fun c => (c, r.findings.filter fun f => f.category = c)
  sizes_eq : (r.groups.map fun g => (g.1.name, (g.2.length : Int))) = r.summary.byCategory
  flatMap_groups : r.groups.flatMap Prod.snd = r.findings
  headings_eq : (r.groups.flatMap fun g => g.2.map fun f => (g.1, f)) =
    r.findings.map fun f => (f.category, f)
  document_eq : ∀ facts reference,
    (r.markdownLines facts reference).drop (8 + r.summary.bySeverity.length) =
      r.groups.flatMap fun g => ["", "## " ++ g.1.name] ++ g.2.flatMap findingLines

/-- Findings in order are listed by the categories that have any. -/
theorem listsBy_categoriesOf
    (hascending : Finding.Ascending r.findings)
    (hsummary : r.summary = summarize r.findings) :
    r.ListsBy (categoriesOf r.findings) := by
  have hgroups := Report.groups_eq hascending
  have hcover : ∀ f ∈ r.findings, f.category ∈ categoriesOf r.findings :=
    fun f hf => mem_categoriesOf.mpr ⟨f, hf, rfl⟩
  have hall := flatMap_filter_category hascending (ascending_categoriesOf r.findings) hcover
  have hcounts : r.summary.byCategory = (categoriesOf r.findings).map fun c =>
      (c.name, ((r.findings.countP fun f => f.category = c : Nat) : Int)) := by
    rw [hsummary]
    rfl
  constructor
  · exact ascending_categoriesOf r.findings
  · exact fun _ => mem_categoriesOf
  · exact hcounts
  · intro e he
    rw [hcounts] at he
    obtain ⟨c, hc, rfl⟩ := List.mem_map.mp he
    obtain ⟨f, hf, rfl⟩ := mem_categoriesOf.mp hc
    simpa [List.countP_pos_iff] using ⟨f, hf, rfl⟩
  · exact hgroups
  · rw [hgroups, hcounts, List.map_map]
    refine List.map_congr_left fun c _ => ?_
    simp [List.countP_eq_length_filter]
  · rw [hgroups, List.flatMap_map]
    exact hall
  · rw [hgroups, List.flatMap_map]
    have hown : ((categoriesOf r.findings).flatMap fun c =>
        (r.findings.filter fun f => f.category = c).map fun f => (c, f)) =
          (categoriesOf r.findings).flatMap fun c =>
            (r.findings.filter fun f => f.category = c).map fun f => (f.category, f) := by
      refine List.flatMap_congr fun c _ => List.map_congr_left fun f hf => ?_
      rw [of_decide_eq_true (List.mem_filter.mp hf).2]
    rw [hown, ← List.map_flatMap, hall]
  · intro facts reference
    unfold markdownLines
    rw [List.drop_left' (by simp only [List.length_append, List.length_map]; rfl)]
    rfl

end Report

/-- That all of a report agrees with its findings, which are some of given ones, from a severity on. -/
structure Report.Agrees (r : Report) (given : List Finding) (least : Severity) : Prop where
  increasing : r.findings.Pairwise Finding.Precedes
  nodup_key : (r.findings.map Finding.key).Nodup
  given_of_mem : ∀ f ∈ r.findings, f ∈ given
  atLeast_of_mem : ∀ f ∈ r.findings, f.severity.atLeast least = true
  total_eq : r.summary.total = r.findings.length
  bySeverity_eq : r.summary.bySeverity = Severity.descending.map fun s =>
    (s.name, ((r.findings.countP fun f => f.severity = s : Nat) : Int))
  sum_bySeverity : (r.summary.bySeverity.map Prod.snd).sum = r.findings.length
  sum_byCategory : (r.summary.byCategory.map Prod.snd).sum = r.findings.length
  listsBy : ∃ cs, r.ListsBy cs
  worst_eq : r.worst?.map Severity.name =
    (r.summary.bySeverity.find? fun c => c.2 ≠ 0).map Prod.fst
  worst_eq_none : r.worst? = none ↔ r.findings = []
  hasFindingAtLeast_iff : ∀ s, r.hasFindingAtLeast s = true ↔
    ∃ f ∈ r.findings, f.severity.atLeast s = true

theorem Severity.mem_descending (s : Severity) : s ∈ descending := by cases s <;> decide

theorem sum_countSeverity (fs : List Finding) :
    (Severity.descending.map fun s => (countSeverity s fs : Int)).sum = fs.length := by
  have hsum := sum_countP_of_nodup (by decide) Finding.severity
    fun f (_ : f ∈ fs) => f.severity.mem_descending
  rw [← hsum, Nat.cast_list_sum, List.map_map]
  rfl

theorem sum_countCategory (fs : List Finding) :
    ((categoriesOf fs).map fun c => (countCategory c fs : Int)).sum = fs.length := by
  have hsum := sum_countP_of_nodup (ascending_categoriesOf fs).nodup Finding.category
    fun f hf => mem_categoriesOf.mpr ⟨f, hf, rfl⟩
  rw [← hsum, Nat.cast_list_sum, List.map_map]
  rfl

/-- The report of any findings agrees with the findings that it shows. -/
theorem aggregate_agrees
    (fs : List Finding)
    (minSeverity : Severity)
    (rulesEvaluated : Int)
    (outcomeCounts : List (Status × Int)) :
    (aggregate fs minSeverity rulesEvaluated outcomeCounts).Agrees fs minSeverity := by
  let r := aggregate fs minSeverity rulesEvaluated outcomeCounts
  have hkept : r.findings.Sublist (dedupe fs) := List.filter_sublist
  have hsummary : r.summary = summarize r.findings := rfl
  have hincreasing : r.findings.Pairwise Finding.Precedes :=
    (pairwise_precedes_dedupe fs).sublist hkept
  have hascending : Finding.Ascending r.findings :=
    hincreasing.imp fun h => by rcases h with h | h <;> omega
  constructor
  · exact hincreasing
  · exact (nodup_key_dedupe fs).sublist (hkept.map Finding.key)
  · exact fun f hf => (mem_dedupe_iff.mp (hkept.mem hf)).1
  · exact fun f hf => (List.mem_filter.mp hf).2
  · rfl
  · rfl
  · show (List.map Prod.snd (summarize r.findings).bySeverity).sum = _
    rw [summarize, List.map_map]
    exact sum_countSeverity r.findings
  · show (List.map Prod.snd (summarize r.findings).byCategory).sum = _
    rw [summarize, List.map_map]
    exact sum_countCategory r.findings
  · exact ⟨_, Report.listsBy_categoriesOf hascending hsummary⟩
  · show r.worst?.map Severity.name = Option.map Prod.fst (List.find? _ (summarize r.findings).bySeverity)
    rw [Report.worst?_eq_find?, summarize, List.find?_map, Option.map_map]
    congr 2
    funext s
    simp [Nat.pos_iff_ne_zero]
  · exact Report.worst?_eq_none_iff
  · exact fun _ => Report.hasFindingAtLeast_iff

end RollupAudit
