import Mathlib.Data.List.Basic
import Mathlib.Data.List.Induction
import RollupAudit.Proofs.Report.Order
import RollupAudit.Report.Aggregate

/-!
# Findings by category

Findings that stand in the order of a report have each category in one piece. So the groups that are
collected finding by finding are the categories that have any, in their order, each with its
findings, and the groups one after another are the findings again.

**Results.**
* `categoriesOf_eq`: an ascending list of the categories of findings is the only one.
* `flatMap_filter_category`: the findings category by category are the findings in their order.
* `Report.groups_eq`: the groups of findings whose categories ascend.
-/

namespace RollupAudit

variable {fs : List Finding} {cs : List Category}

/-- That the categories of findings never go back in the order of a report. -/
def Finding.Ascending (fs : List Finding) : Prop :=
  fs.Pairwise fun f g => f.category.position ≤ g.category.position

/-- That categories are in the order of a report, none of them twice. -/
def Category.Ascending (cs : List Category) : Prop :=
  cs.Pairwise fun c d => c.position < d.position

theorem Category.Ascending.nodup
    (h : Category.Ascending cs) :
    cs.Nodup :=
  h.imp fun hlt heq => by
    rw [heq] at hlt
    exact Nat.lt_irrefl _ hlt

theorem Category.ascending_all : Category.Ascending Category.all := by
  unfold Category.Ascending
  decide

theorem mem_categoriesOf
    {c : Category} :
    c ∈ categoriesOf fs ↔ ∃ f ∈ fs, f.category = c := by
  simp [categoriesOf, Category.mem_all]

theorem ascending_categoriesOf (fs : List Finding) : Category.Ascending (categoriesOf fs) :=
  Category.ascending_all.sublist List.filter_sublist

/-- There is one ascending list of the categories of findings. -/
theorem categoriesOf_eq
    (hascending : Category.Ascending cs)
    (hmem : ∀ c, c ∈ cs ↔ ∃ f ∈ fs, f.category = c) :
    categoriesOf fs = cs := by
  have hfound := ascending_categoriesOf fs
  have hperm : (categoriesOf fs).Perm cs := by
    rw [List.perm_ext_iff_of_nodup hfound.nodup hascending.nodup]
    intro c
    rw [mem_categoriesOf, hmem]
  exact hperm.eq_of_pairwise (fun _ _ _ _ h h' => absurd h' (Nat.lt_asymm h)) hfound hascending

/-- A finding of a category that others have adds no category. -/
theorem categoriesOf_append_of_mem
    {f : Finding}
    (hmem : f.category ∈ categoriesOf fs) :
    categoriesOf (fs ++ [f]) = categoriesOf fs := by
  refine categoriesOf_eq (ascending_categoriesOf fs) fun c => ?_
  by_cases hc : f.category = c
  · subst hc
    simp [hmem]
  · simp [mem_categoriesOf, or_and_right, exists_or, hc]

/-- A finding of a later category adds the category at the end. -/
theorem categoriesOf_append_of_not_mem
    {f : Finding}
    (hbehind : ∀ g ∈ fs, g.category.position ≤ f.category.position)
    (hmem : f.category ∉ categoriesOf fs) :
    categoriesOf (fs ++ [f]) = categoriesOf fs ++ [f.category] := by
  apply categoriesOf_eq
  · refine List.pairwise_append.mpr
      ⟨ascending_categoriesOf fs, List.pairwise_singleton _ _, fun c hc d hd => ?_⟩
    obtain ⟨g, hg, rfl⟩ := mem_categoriesOf.mp hc
    rw [List.mem_singleton.mp hd]
    exact Nat.lt_of_le_of_ne (hbehind g hg) fun heq =>
      hmem (Category.position_injective heq ▸ hc)
  · intro c
    simp [mem_categoriesOf, or_and_right, exists_or, eq_comm]

/-- Items of which those with a property come first are those followed by the others. -/
theorem filter_append_filter_not
    {α : Type}
    {p : α → Bool}
    {as : List α}
    (h : as.Pairwise fun a b => p b = true → p a = true) :
    as.filter p ++ as.filter (fun a => !p a) = as := by
  induction as with
  | nil => rfl
  | cons a as ih =>
    obtain ⟨hfront, htail⟩ := List.pairwise_cons.mp h
    by_cases ha : p a = true
    · simp [ha, ih htail]
    · have hnone : ∀ b ∈ as, p b = false := fun b hb => by
        by_contra hb'
        exact ha (hfront b hb (by simpa using hb'))
      have hkept : as.filter p = [] := List.filter_eq_nil_iff.mpr fun b hb => by simp [hnone b hb]
      have hothers : (as.filter fun a => !p a) = as :=
        List.filter_eq_self.mpr fun b hb => by simp [hnone b hb]
      simp [ha, hkept, hothers]

/-- The findings of ascending categories, category by category, are the findings in their order. -/
theorem flatMap_filter_category
    (hfs : Finding.Ascending fs)
    (hcs : Category.Ascending cs)
    (hcover : ∀ f ∈ fs, f.category ∈ cs) :
    (cs.flatMap fun c => fs.filter fun f => f.category = c) = fs := by
  induction cs generalizing fs with
  | nil => simpa using (List.eq_nil_iff_forall_not_mem.mpr fun f hf => by simpa using hcover f hf).symm
  | cons c cs ih =>
    obtain ⟨hfirst, hrest⟩ := List.pairwise_cons.mp hcs
    let others := fs.filter fun f => !decide (f.category = c)
    have hothers : ∀ f ∈ others, f.category ∈ cs := by
      intro f hf
      obtain ⟨hf, hne⟩ := List.mem_filter.mp hf
      exact (List.mem_cons.mp (hcover f hf)).resolve_left (by simpa using hne)
    have hsame : (cs.flatMap fun d => fs.filter fun f => f.category = d) =
        cs.flatMap fun d => others.filter fun f => f.category = d := by
      refine List.flatMap_congr fun d hd => ?_
      rw [List.filter_filter]
      refine List.filter_congr fun f _ => ?_
      by_cases hfd : f.category = d
      · have hne : d ≠ c := fun heq => Nat.lt_irrefl _ (heq ▸ hfirst d hd)
        simp [hfd, hne]
      · simp [hfd]
    have hleading : fs.Pairwise fun f g =>
        decide (g.category = c) = true → decide (f.category = c) = true := by
      refine hfs.imp_of_mem fun {f g} hf _ hle hg => ?_
      simp only [decide_eq_true_eq] at hg ⊢
      rcases List.mem_cons.mp (hcover f hf) with heq | hmem
      · exact heq
      · have := hfirst _ hmem
        rw [hg] at hle
        omega
    rw [List.flatMap_cons, hsame, ih (hfs.sublist List.filter_sublist) hrest hothers]
    exact filter_append_filter_not hleading

namespace Report

/-- A finding of a category that has a group is added to the group. -/
theorem addToGroup_map_of_mem
    {f : Finding} {members : Category → List Finding}
    (hcs : cs.Nodup)
    (hmem : f.category ∈ cs) :
    addToGroup f (cs.map fun c => (c, members c)) =
      cs.map fun c => (c, members c ++ if f.category = c then [f] else []) := by
  induction cs with
  | nil => cases hmem
  | cons c cs ih =>
    obtain ⟨hfresh, hnodup⟩ := List.nodup_cons.mp hcs
    by_cases hc : c = f.category
    · subst hc
      have hothers : ∀ d ∈ cs, f.category ≠ d := fun d hd heq => hfresh (heq ▸ hd)
      have hkept : (cs.map fun d => (d, members d)) =
          cs.map fun d => (d, members d ++ if f.category = d then [f] else []) :=
        List.map_congr_left fun d hd => by simp [hothers d hd]
      simp [addToGroup, ← hkept]
    · have hrest : f.category ∈ cs := (List.mem_cons.mp hmem).resolve_left (Ne.symm hc)
      simp [addToGroup, hc, Ne.symm hc, ih hnodup hrest]

/-- A finding of a category that has no group starts one at the end. -/
theorem addToGroup_map_of_not_mem
    {f : Finding} {members : Category → List Finding}
    (hmem : f.category ∉ cs) :
    addToGroup f (cs.map fun c => (c, members c)) =
      (cs.map fun c => (c, members c)) ++ [(f.category, [f])] := by
  induction cs with
  | nil => rfl
  | cons c cs ih =>
    simp only [List.mem_cons, not_or] at hmem
    simp [addToGroup, Ne.symm hmem.1, ih hmem.2]

/-- The groups of findings whose categories ascend are the categories in order, each with its
findings. -/
theorem groups_eq
    {r : Report}
    (h : Finding.Ascending r.findings) :
    r.groups = (categoriesOf r.findings).map fun c =>
      (c, r.findings.filter fun f => f.category = c) := by
  unfold groups
  generalize r.findings = fs at h
  induction fs using List.reverseRecOn with
  | nil => rfl
  | append_singleton fs f ih =>
    obtain ⟨hfs, -, hbehind⟩ := List.pairwise_append.mp h
    have hbehind : ∀ g ∈ fs, g.category.position ≤ f.category.position :=
      fun g hg => hbehind g hg f List.mem_cons_self
    rw [List.foldl_append, List.foldl_cons, List.foldl_nil, ih hfs]
    by_cases hmem : f.category ∈ categoriesOf fs
    · rw [addToGroup_map_of_mem (ascending_categoriesOf fs).nodup hmem,
        categoriesOf_append_of_mem hmem]
      refine List.map_congr_left fun c _ => ?_
      rw [List.filter_append, List.filter_singleton, cond_eq_ite]
      simp
    · rw [addToGroup_map_of_not_mem hmem, categoriesOf_append_of_not_mem hbehind hmem,
        List.map_append]
      congr 1
      · refine List.map_congr_left fun c hc => ?_
        have hne : f.category ≠ c := fun heq => hmem (heq ▸ hc)
        simp [List.filter_append, hne]
      · have hnone : (fs.filter fun g => g.category = f.category) = [] :=
          List.filter_eq_nil_iff.mpr fun g hg heq =>
            hmem (mem_categoriesOf.mpr ⟨g, hg, by simpa using heq⟩)
        simp [List.filter_append, hnone]

end Report
end RollupAudit
