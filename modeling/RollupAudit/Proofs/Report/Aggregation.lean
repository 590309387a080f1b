import RollupAudit.Proofs.Report.Survivors

/-!
# Aggregation of findings

The report of findings depends on which findings there are, and neither on the order in which they
arrive nor on how often each of them does.

What is kept of findings is known from any part of them that has, for each of them, one with its rule
and snapshot that comes no later. Since what is kept of a list is such a part of it, lists can be merged
one by one, and merging what is kept changes nothing. If all findings on a rule and snapshot are in one
category, a finding below the minimum severity is kept only where all of them are below it; so the
findings of a report can be merged in the same way.

**Results.**
* `aggregate_congr_of_mem_iff`: lists with the same findings have one report and one text.
* `dedupe_eq_of_represents`: what is kept of a part that stands for the whole.
* `downTo_dedupe`: leaving out severities before or after merging.
* `dedupe_append_and_aggregate_append`: lists of findings, and reports, merged in parts.
-/

namespace RollupAudit

/-- Lists with the same findings have the same report, and the report the same text. -/
theorem aggregate_congr_of_mem_iff
    {fs gs : List Finding}
    (h : ∀ f, f ∈ fs ↔ f ∈ gs)
    (minSeverity : Severity)
    (rulesEvaluated : Int)
    (outcomeCounts : List (Status × Int)) :
    aggregate fs minSeverity rulesEvaluated outcomeCounts =
        aggregate gs minSeverity rulesEvaluated outcomeCounts ∧
      ∀ indent, (aggregate fs minSeverity rulesEvaluated outcomeCounts).text? indent =
        (aggregate gs minSeverity rulesEvaluated outcomeCounts).text? indent := by
  have hreport : aggregate fs minSeverity rulesEvaluated outcomeCounts =
      aggregate gs minSeverity rulesEvaluated outcomeCounts := by
    unfold aggregate
    rw [dedupe_congr h]
  exact ⟨hreport, fun indent => by rw [hreport]⟩

/-- The first of three findings of one rule on one snapshot, which differ in their titles and details
and in whether the rule broke down, arrives twice. -/
theorem aggregate_congr_three_of_one_key :
    let stale : Finding :=
      { ruleId := "ORA-1", category := .oracle, severity := .high, verdict := .fail
        detail := "stale", reference := "sha256:0" }
    let titled := { stale with ruleTitle := "Oracle" }
    let broken := { stale with internalError := true, verdict := .inconclusive, detail := "?" }
    aggregate [stale, titled, stale, broken] .low 3 [(.fail, 2), (.inconclusive, 1)] =
      aggregate [broken, titled, stale] .low 3 [(.fail, 2), (.inconclusive, 1)] := by
  intro stale titled broken
  have hsame : ∀ f, f ∈ [stale, titled, stale, broken] ↔ f ∈ [broken, titled, stale] := by
    intro f
    simp only [List.mem_cons, List.not_mem_nil, or_false]
    grind
  exact (aggregate_congr_of_mem_iff hsame .low 3 _).1

/-! ## Findings merged in parts -/

namespace Finding

/-- That some of the findings have, for each of them, one with its key that comes no later. -/
structure Represents (gs fs : List Finding) : Prop where
  subset : ∀ g ∈ gs, g ∈ fs
  covers : ∀ f ∈ fs, ∃ g ∈ gs, g.key = f.key ∧ g.le f = true

/-- The findings down to a severity. -/
def downTo (m : Severity) (fs : List Finding) : List Finding :=
  fs.filter fun f => f.severity.atLeast m

/-- That findings on one rule and snapshot are in one category. -/
def KeysFixCategory (fs : List Finding) : Prop :=
  ∀ f ∈ fs, ∀ g ∈ fs, g.key = f.key → g.category = f.category

variable {f g : Finding} {fs gs : List Finding} {m : Severity}

@[simp] theorem mem_downTo : f ∈ downTo m fs ↔ f ∈ fs ∧ f.severity.atLeast m = true :=
  List.mem_filter

@[simp] theorem downTo_append : downTo m (fs ++ gs) = downTo m fs ++ downTo m gs :=
  List.filter_append ..

@[simp] theorem downTo_downTo : downTo m (downTo m fs) = downTo m fs := by
  simp [downTo]

/-- A finding that comes first among all comes first in a part that it belongs to. -/
theorem IsFirst.of_subset
    (h : f.IsFirst fs)
    (hmem : f ∈ gs)
    (hsub : ∀ g ∈ gs, g ∈ fs) :
    f.IsFirst gs :=
  ⟨hmem, fun g hg hkey => h.2 g (hsub g hg) hkey⟩

/-- Those that come first in a part that stands for the whole come first in the whole. -/
theorem Represents.isFirst_iff
    (h : Represents gs fs) :
    f.IsFirst gs ↔ f.IsFirst fs := by
  constructor
  · intro hfirst
    refine ⟨h.subset f hfirst.1, fun g hg hkey => ?_⟩
    obtain ⟨x, hx, hxkey, hxg⟩ := h.covers g hg
    exact le_trans (hfirst.2 x hx (hxkey.trans hkey)) hxg
  · intro hfirst
    obtain ⟨x, hx, hkey, hle⟩ := h.covers f hfirst.1
    obtain rfl : x = f := le_antisymm hle (hfirst.2 x (h.subset x hx) hkey)
    exact hfirst.of_subset hx h.subset

theorem Represents.append
    {fs' gs' : List Finding}
    (h : Represents gs fs)
    (h' : Represents gs' fs') :
    Represents (gs ++ gs') (fs ++ fs') where
  subset := by
    intro g hg
    rcases List.mem_append.mp hg with hg | hg
    · exact List.mem_append_left _ (h.subset g hg)
    · exact List.mem_append_right _ (h'.subset g hg)
  covers := by
    intro f hf
    rcases List.mem_append.mp hf with hf | hf
    · obtain ⟨g, hg, hgf⟩ := h.covers f hf
      exact ⟨g, List.mem_append_left _ hg, hgf⟩
    · obtain ⟨g, hg, hgf⟩ := h'.covers f hf
      exact ⟨g, List.mem_append_right _ hg, hgf⟩

/-- What is kept stands for the whole. -/
theorem represents_dedupe (fs : List Finding) : Represents (dedupe fs) fs where
  subset := fun _ hg => (mem_dedupe_iff.mp hg).1
  covers := by
    intro f hf
    obtain ⟨x, hx, hkey⟩ := exists_isFirst hf
    exact ⟨x, mem_dedupe_iff.mpr hx, hkey, hx.2 f hf hkey.symm⟩

theorem KeysFixCategory.of_subset
    (h : KeysFixCategory fs)
    (hsub : ∀ g ∈ gs, g ∈ fs) :
    KeysFixCategory gs :=
  fun f hf g hg => h f (hsub f hf) g (hsub g hg)

/-- Of two findings on one rule and snapshot in one category the more severe one comes first. -/
theorem le_of_rank_lt
    (hkey : g.key = f.key)
    (hcategory : g.category = f.category)
    (hrank : g.severity.rank < f.severity.rank) :
    f.le g = true := by
  rcases le_total f g with hle | hge
  · exact hle
  · have hposition : f.category.position ≤ g.category.position := by rw [hcategory]
    rcases outranks_of_le hge hkey.symm hposition with hlt | ⟨heq, -⟩ <;> omega

end Finding

open Finding

variable {fs gs : List Finding}

theorem dedupe_eq_of_represents
    (h : Represents gs fs) :
    dedupe gs = dedupe fs := by
  refine eq_dedupe_of_mem_iff (sorted_dedupe gs) (nodup_dedupe gs) fun f => ?_
  rw [mem_dedupe_iff, h.isFirst_iff]

/-- Where keys fix the category, the severities that a report leaves out can be left out before. -/
theorem downTo_dedupe
    (h : KeysFixCategory fs)
    (m : Severity) :
    downTo m (dedupe fs) = dedupe (downTo m fs) := by
  refine eq_dedupe_of_mem_iff ((sorted_dedupe fs).filter _) ((nodup_dedupe fs).filter _) fun f => ?_
  rw [mem_downTo, mem_dedupe_iff]
  constructor
  · rintro ⟨hfirst, hsevere⟩
    exact hfirst.of_subset (mem_downTo.mpr ⟨hfirst.1, hsevere⟩) fun g hg => (mem_downTo.mp hg).1
  · rintro ⟨hf, hfirst⟩
    obtain ⟨hf, hsevere⟩ := mem_downTo.mp hf
    refine ⟨⟨hf, fun g hg hkey => ?_⟩, hsevere⟩
    by_cases hgsevere : g.severity.atLeast m = true
    · exact hfirst g (mem_downTo.mpr ⟨hg, hgsevere⟩) hkey
    · -- What the report leaves out is less severe, so it comes later.
      rw [Severity.atLeast_iff] at hsevere hgsevere
      exact le_of_rank_lt hkey (h f hf g hg hkey) (by omega)

/-- What is kept of lists that were merged one by one is what is kept of all their findings, and
merging again changes nothing. If findings on one rule and snapshot are in one category, the findings of
reports down to a severity can be merged into those of the report of all findings. -/
theorem dedupe_append_and_aggregate_append (xs ys : List Finding) :
    dedupe (dedupe xs ++ dedupe ys) = dedupe (xs ++ ys) ∧
      dedupe (dedupe xs) = dedupe xs ∧
      (KeysFixCategory (xs ++ ys) → ∀ m,
        (aggregate ((aggregate xs m).findings ++ (aggregate ys m).findings) m).findings =
          (aggregate (xs ++ ys) m).findings) := by
  have hparts := (represents_dedupe xs).append (represents_dedupe ys)
  refine ⟨dedupe_eq_of_represents hparts, dedupe_eq_of_represents (represents_dedupe xs), fun h m => ?_⟩
  have hxs : KeysFixCategory xs := h.of_subset fun _ => List.mem_append_left ys
  have hys : KeysFixCategory ys := h.of_subset fun _ => List.mem_append_right xs
  have hkept : KeysFixCategory (downTo m (dedupe xs) ++ downTo m (dedupe ys)) := by
    refine h.of_subset fun f hf => hparts.subset f ?_
    rw [← downTo_append] at hf
    exact (mem_downTo.mp hf).1
  calc downTo m (dedupe (downTo m (dedupe xs) ++ downTo m (dedupe ys)))
      = dedupe (downTo m (dedupe xs) ++ downTo m (dedupe ys)) := by
        rw [downTo_dedupe hkept, downTo_append, downTo_downTo, downTo_downTo]
    _ = dedupe (dedupe (downTo m xs) ++ dedupe (downTo m ys)) := by
        rw [downTo_dedupe hxs, downTo_dedupe hys]
    _ = dedupe (downTo m (xs ++ ys)) := by
        rw [dedupe_eq_of_represents ((represents_dedupe _).append (represents_dedupe _)), downTo_append]
    _ = downTo m (dedupe (xs ++ ys)) := (downTo_dedupe h m).symm

/-- Two parts have findings of one rule on one snapshot: an open one that is high in the first part, and
a critical failure in the second. The failure is left where their reports are merged. -/
theorem aggregate_append_keeps_critical :
    let stale : Finding :=
      { ruleId := "ORA-1", category := .oracle, severity := .low, verdict := .fail
        detail := "a", reference := "sha256:0" }
    let unknown := { stale with severity := .high, verdict := .inconclusive }
    let failed := { stale with severity := .critical }
    KeysFixCategory [stale, unknown, failed, stale] ∧
      failed ∈ (aggregate ((aggregate [stale, unknown] .high).findings ++
        (aggregate [failed, stale] .high).findings) .high).findings := by
  intro stale unknown failed
  have hkeys : KeysFixCategory [stale, unknown, failed, stale] := by
    unfold KeysFixCategory
    decide
  refine ⟨hkeys, ?_⟩
  rw [(dedupe_append_and_aggregate_append [stale, unknown] [failed, stale]).2.2 hkeys .high]
  have hfirst : failed.IsFirst [stale, unknown, failed, stale] := ⟨by simp, by decide⟩
  exact mem_downTo.mpr ⟨mem_dedupe_iff.mpr hfirst, rfl⟩

end RollupAudit
