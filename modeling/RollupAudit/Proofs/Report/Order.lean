import RollupAudit.Report.Finding

/-!
# The order of findings

The order of a report is a total order: no two different findings share a place in it, because its
eight fields are all that a finding consists of. Hence the sorted list of findings is determined by
its members and how often each occurs.

**Results.**
* `Finding.le_antisymm`, `Finding.le_trans`, `Finding.le_total`: the order is total.
* `Finding.precedes_of_le`: findings with different keys differ in one of the first four fields.
* `Finding.eq_of_perm_of_sorted`: the sorted arrangement of a list is unique.
-/

namespace RollupAudit

open Std

namespace SortKey

theorem compare_eq :
    SortKey.compare =
      compareLex (compareOn SortKey.position) (compareLex (compareOn SortKey.severity)
        (compareLex (compareOn SortKey.ruleId) (compareLex (compareOn SortKey.reference)
          (compareLex (compareOn SortKey.status) (compareLex (compareOn SortKey.detail)
            (compareLex (compareOn SortKey.title) (compareOn SortKey.internalError))))))) :=
  rfl

instance : TransCmp SortKey.compare := by
  rw [compare_eq]
  infer_instance

instance : LawfulEqCmp SortKey.compare where
  eq_of_compare {a b} h := by
    simp only [SortKey.compare, Ordering.then_eq_eq, LawfulEqCmp.compare_eq_iff_eq] at h
    cases a
    cases b
    simp_all

theorem le_trans
    {a b c : SortKey}
    (hab : a.le b = true)
    (hbc : b.le c = true) :
    a.le c = true :=
  TransCmp.isLE_trans hab hbc

theorem le_total (a b : SortKey) : a.le b = true ∨ b.le a = true := by
  have hswap : b.compare a = (a.compare b).swap := OrientedCmp.eq_swap
  unfold le
  rw [hswap]
  cases a.compare b <;> simp

theorem le_antisymm
    {a b : SortKey}
    (hab : a.le b = true)
    (hba : b.le a = true) :
    a = b := by
  have hswap : b.compare a = (a.compare b).swap := OrientedCmp.eq_swap
  unfold le at hab hba
  rw [hswap] at hba
  have heq : a.compare b = .eq := by
    cases hc : a.compare b <;> simp [hc] at hab hba ⊢
  exact LawfulEqCmp.eq_of_compare heq

end SortKey

namespace Finding

theorem verdict_eq_of_name_eq
    {v w : Verdict}
    (h : v.status.name = w.status.name) :
    v = w := by
  revert h
  cases v <;> cases w <;> decide

/-- No two different findings share a place in the order of a report. -/
theorem sortKey_injective
    {f g : Finding}
    (h : f.sortKey = g.sortKey) :
    f = g := by
  obtain ⟨id, title, category, severity, verdict, detail, reference, internal⟩ := f
  obtain ⟨id', title', category', severity', verdict', detail', reference', internal'⟩ := g
  simp only [sortKey, SortKey.mk.injEq] at h
  obtain ⟨hposition, hrank, hid, hreference, hstatus, hdetail, htitle, hinternal⟩ := h
  have hcategory : category = category' := Category.position_injective hposition
  have hseverity : severity = severity' := by
    apply Severity.rank_injective
    simp only [Int.ofNat_eq_natCast] at hrank
    omega
  have hverdict : verdict = verdict' := verdict_eq_of_name_eq hstatus
  simp_all

theorem le_trans
    {f g h : Finding}
    (hfg : f.le g = true)
    (hgh : g.le h = true) :
    f.le h = true :=
  SortKey.le_trans hfg hgh

theorem le_total (f g : Finding) : f.le g = true ∨ g.le f = true :=
  SortKey.le_total f.sortKey g.sortKey

theorem le_antisymm
    {f g : Finding}
    (hfg : f.le g = true)
    (hgf : g.le f = true) :
    f = g :=
  sortKey_injective (SortKey.le_antisymm hfg hgf)

theorem le_refl (f : Finding) : f.le f = true := by
  rcases le_total f f with h | h <;> exact h

/-- A finding comes before another by category, severity, rule or snapshot. -/
def Precedes (f g : Finding) : Prop :=
  f.category.position < g.category.position ∨
    f.category.position = g.category.position ∧
      (g.severity.rank < f.severity.rank ∨
        g.severity.rank = f.severity.rank ∧
          (f.ruleId < g.ruleId ∨ f.ruleId = g.ruleId ∧ f.reference < g.reference))

/-- The comparison of texts by their characters. -/
theorem compare_text_eq_lt_iff
    {s t : String} :
    Ord.compare s t = .lt ↔ s < t := by
  show compareOfLessAndEq s t = .lt ↔ s < t
  unfold compareOfLessAndEq
  split
  · simp_all
  · split <;> simp_all

/-- Findings with different keys are told apart by the first four fields of the order. -/
theorem precedes_of_le
    {f g : Finding}
    (hle : f.le g = true)
    (hkey : f.key ≠ g.key) :
    f.Precedes g := by
  simp only [Finding.le, SortKey.le, SortKey.compare, Ordering.isLE_then_iff_or,
    LawfulEqCmp.compare_eq_iff_eq, Nat.compare_eq_lt, Int.compare_eq_lt,
    compare_text_eq_lt_iff, sortKey] at hle
  rcases hle with hposition | ⟨hposition, hseverity | ⟨hseverity, hid | ⟨hid, hrest⟩⟩⟩
  · exact .inl hposition
  · exact .inr ⟨hposition, .inl (by simp only [Int.ofNat_eq_natCast] at hseverity; omega)⟩
  · exact .inr ⟨hposition, .inr
      ⟨by simp only [Int.ofNat_eq_natCast] at hseverity; omega, .inl hid⟩⟩
  · rcases hrest with hreference | ⟨hreference, _⟩
    · exact .inr ⟨hposition, .inr
        ⟨by simp only [Int.ofNat_eq_natCast] at hseverity; omega, .inr ⟨hid, hreference⟩⟩⟩
    · exact absurd (Prod.ext hid hreference) hkey

/-! ## Sorted lists of findings -/

/-- Findings none of which comes before an earlier one. -/
def Sorted (fs : List Finding) : Prop := fs.Pairwise fun f g => f.le g = true

theorem sort_perm (fs : List Finding) : (Finding.sort fs).Perm fs :=
  List.mergeSort_perm fs Finding.le

@[simp] theorem mem_sort
    {f : Finding} {fs : List Finding} :
    f ∈ Finding.sort fs ↔ f ∈ fs :=
  (sort_perm fs).mem_iff

theorem sorted_sort (fs : List Finding) : Sorted (Finding.sort fs) := by
  have htrans : ∀ f g h : Finding, f.le g = true → g.le h = true → f.le h = true :=
    fun _ _ _ => le_trans
  have htotal : ∀ f g : Finding, (f.le g || g.le f) = true := by
    intro f g
    simpa using le_total f g
  exact List.pairwise_mergeSort htrans htotal fs

theorem sort_eq_self
    {fs : List Finding}
    (h : Sorted fs) :
    Finding.sort fs = fs :=
  List.mergeSort_of_pairwise h

/-- The sorted arrangement of a list is unique. -/
theorem eq_of_perm_of_sorted
    {fs gs : List Finding}
    (hperm : fs.Perm gs)
    (hfs : Sorted fs)
    (hgs : Sorted gs) :
    fs = gs :=
  hperm.eq_of_pairwise (fun _ _ _ _ => le_antisymm) hfs hgs

end Finding
end RollupAudit
