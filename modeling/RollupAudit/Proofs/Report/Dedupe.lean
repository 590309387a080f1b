import Mathlib.Data.List.Nodup
import RollupAudit.Proofs.Report.Order
import RollupAudit.Report.Aggregate

/-!
# One finding for each rule and snapshot

Of the findings on one rule and snapshot the first in the order of a report is kept. Since that
order is total, which one it is depends on the findings alone and not on where they stand.

**Results.**
* `mem_dedupe_iff`: the kept findings are the first ones of their rule and snapshot.
* `nodup_key_dedupe`, `sorted_dedupe`: no rule and snapshot is kept twice, and the kept findings are
  in order.
* `dedupe_congr`: the kept findings are the same for lists with the same members.
-/

namespace RollupAudit

namespace Finding

/-- A finding that comes first among those of its rule and snapshot. -/
def IsFirst (f : Finding) (fs : List Finding) : Prop :=
  f ∈ fs ∧ ∀ g ∈ fs, g.key = f.key → f.le g = true

theorem IsFirst.congr
    {f : Finding} {fs gs : List Finding}
    (h : ∀ x, x ∈ fs ↔ x ∈ gs) :
    f.IsFirst fs ↔ f.IsFirst gs := by
  simp only [IsFirst, h]

theorem isFirst_cons_of_key_ne
    {f g : Finding} {fs : List Finding}
    (hkey : g.key ≠ f.key) :
    f.IsFirst (g :: fs) ↔ f.IsFirst fs := by
  have hne : f ≠ g := fun h => hkey (by rw [h])
  simp only [IsFirst, List.mem_cons, hne, false_or, forall_eq_or_imp, hkey, false_implies,
    true_and]

/-- In a sorted list the finding in front comes first, and no other one with its key. -/
theorem isFirst_cons_of_key_eq
    {f g : Finding} {fs : List Finding}
    (hs : Sorted (g :: fs))
    (hkey : g.key = f.key) :
    f.IsFirst (g :: fs) ↔ f = g := by
  have hfront : ∀ x ∈ g :: fs, g.le x = true := by
    intro x hx
    rcases List.mem_cons.mp hx with rfl | hx
    · exact le_refl x
    · exact (List.pairwise_cons.mp hs).1 x hx
  constructor
  · intro h
    exact le_antisymm (h.2 g (by simp) hkey) (hfront f h.1)
  · rintro rfl
    exact ⟨by simp, fun x hx _ => hfront x hx⟩

end Finding

open Finding

theorem firstOfEach_sublist
    (fs : List Finding) :
    ∀ seen : List (String × String), (firstOfEach seen fs).Sublist fs := by
  induction fs with
  | nil => simp [firstOfEach]
  | cons g gs ih =>
    intro seen
    simp only [firstOfEach]
    split
    · exact (ih seen).trans (List.sublist_cons_self g gs)
    · exact (ih (g.key :: seen)).cons_cons g

/-- Of a sorted list the findings that come first are taken, unless their key was seen before. -/
theorem mem_firstOfEach_iff
    {f : Finding} {fs : List Finding}
    (hs : Sorted fs) :
    ∀ seen : List (String × String),
      f ∈ firstOfEach seen fs ↔ f.key ∉ seen ∧ f.IsFirst fs := by
  induction fs with
  | nil => simp [firstOfEach, IsFirst]
  | cons g gs ih =>
    intro seen
    have htail : Sorted gs := (List.pairwise_cons.mp hs).2
    simp only [firstOfEach, List.contains_iff_mem]
    by_cases hkey : g.key = f.key
    · rw [isFirst_cons_of_key_eq hs hkey]
      split
      · rename_i hseen
        rw [ih htail, ← hkey]
        simp [hseen]
      · rename_i hseen
        rw [List.mem_cons, ih htail]
        simp only [← hkey, List.mem_cons, true_or, not_true_eq_false, false_and, or_false]
        exact ⟨fun h => ⟨hseen, h⟩, fun h => h.2⟩
    · rw [isFirst_cons_of_key_ne hkey]
      have hne : f ≠ g := fun h => hkey (by rw [h])
      split
      · exact ih htail seen
      · rw [List.mem_cons, ih htail]
        simp [hne, Ne.symm hkey]

theorem nodup_key_firstOfEach
    {fs : List Finding}
    (hs : Sorted fs) :
    ∀ seen : List (String × String), ((firstOfEach seen fs).map Finding.key).Nodup := by
  induction fs with
  | nil => simp [firstOfEach]
  | cons g gs ih =>
    intro seen
    have htail : Sorted gs := (List.pairwise_cons.mp hs).2
    simp only [firstOfEach]
    split
    · exact ih htail seen
    · rw [List.map_cons, List.nodup_cons]
      refine ⟨?_, ih htail (g.key :: seen)⟩
      intro hmem
      obtain ⟨x, hx, hkey⟩ := List.mem_map.mp hmem
      have hunseen := ((mem_firstOfEach_iff htail (g.key :: seen)).mp hx).1
      simp [hkey] at hunseen

theorem dedupe_eq
    (fs : List Finding) :
    dedupe fs = firstOfEach [] (Finding.sort fs) :=
  sort_eq_self ((sorted_sort fs).sublist (firstOfEach_sublist _ []))

theorem sorted_dedupe (fs : List Finding) : Sorted (dedupe fs) :=
  sorted_sort _

/-- The kept findings are those that come first among the findings of their rule and snapshot. -/
theorem mem_dedupe_iff
    {f : Finding} {fs : List Finding} :
    f ∈ dedupe fs ↔ f.IsFirst fs := by
  rw [dedupe_eq, mem_firstOfEach_iff (sorted_sort fs)]
  simp only [List.not_mem_nil, not_false_eq_true, true_and]
  exact IsFirst.congr fun _ => mem_sort

/-- At most one finding is kept for each rule and snapshot. -/
theorem nodup_key_dedupe
    (fs : List Finding) :
    ((dedupe fs).map Finding.key).Nodup := by
  rw [dedupe_eq]
  exact nodup_key_firstOfEach (sorted_sort fs) []

theorem pairwise_precedes_dedupe
    (fs : List Finding) :
    (dedupe fs).Pairwise Finding.Precedes := by
  have hkeys : (dedupe fs).Pairwise fun f g => f.key ≠ g.key :=
    List.pairwise_map.mp (nodup_key_dedupe fs)
  exact ((sorted_dedupe fs).and hkeys).imp fun h => precedes_of_le h.1 h.2

theorem nodup_dedupe (fs : List Finding) : (dedupe fs).Nodup :=
  List.Nodup.of_map Finding.key (nodup_key_dedupe fs)

/-- Findings in order without repetitions, which are those that come first, are what is kept. -/
theorem eq_dedupe_of_mem_iff
    {fs gs : List Finding}
    (hsorted : Sorted gs)
    (hnodup : gs.Nodup)
    (h : ∀ f, f ∈ gs ↔ f.IsFirst fs) :
    gs = dedupe fs := by
  apply eq_of_perm_of_sorted _ hsorted (sorted_dedupe fs)
  rw [List.perm_ext_iff_of_nodup hnodup (nodup_dedupe fs)]
  intro f
  rw [h, mem_dedupe_iff]

/-- Lists with the same members have the same findings kept of them. -/
theorem dedupe_congr
    {fs gs : List Finding}
    (h : ∀ f, f ∈ fs ↔ f ∈ gs) :
    dedupe fs = dedupe gs :=
  eq_dedupe_of_mem_iff (sorted_dedupe fs) (nodup_dedupe fs) fun _ =>
    mem_dedupe_iff.trans (IsFirst.congr h)

/-- Findings of which no two share a rule and snapshot are all kept. -/
theorem dedupe_perm_of_nodup_key
    {fs : List Finding}
    (h : (fs.map Finding.key).Nodup) :
    (dedupe fs).Perm fs := by
  have hnodup : fs.Nodup := List.Nodup.of_map Finding.key h
  rw [List.perm_ext_iff_of_nodup (nodup_dedupe fs) hnodup]
  intro f
  rw [mem_dedupe_iff]
  constructor
  · exact fun hf => hf.1
  · intro hf
    refine ⟨hf, fun g hg hkey => ?_⟩
    have hsame : g = f := List.inj_on_of_nodup_map h hg hf hkey
    rw [hsame]
    exact le_refl f

end RollupAudit
