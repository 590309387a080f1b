import Mathlib.Data.String.Basic
import RollupAudit.Proofs.Report.Dedupe

/-!
# Which finding is kept

Of the findings on one rule and snapshot the one to keep is a most severe one, a failure rather than
one left open, and then the one with the smallest detail. The order of a report puts the category in
front of the severity, so this preference decides among the findings of one category only: what is
kept is the preferred finding of the category that stands first, and a more severe one in a later
category is dropped.

**Results.**
* `isPreferred_leading_of_isFirst`: what is kept is preferred in the category that stands first.
* `isPreferred_iff_exists_leading`: it is preferred among all exactly when such a finding stands in
  that category.
* `dedupe_keeps_preferred_of_leading`: both together, with the severities down to which a report
  shows a rule and snapshot.
* `dedupe_loses_severity`: a critical failure gives way to a low finding of an earlier category.
-/

namespace RollupAudit

namespace Finding

/-- The findings on a rule and snapshot. -/
def about (k : String × String) (fs : List Finding) : List Finding :=
  fs.filter fun f => f.key = k

/-- The findings in the category that stands first among theirs. -/
def leading (fs : List Finding) : List Finding :=
  fs.filter fun f => fs.all fun g => f.category.position ≤ g.category.position

/-- A most severe finding, a failure if one of those is, and with the smallest detail then. -/
structure IsPreferred (x : Finding) (fs : List Finding) : Prop where
  mem : x ∈ fs
  mostSevere : ∀ g ∈ fs, g.severity.rank ≤ x.severity.rank
  fails : ∀ g ∈ fs, g.severity = x.severity → g.verdict = .fail → x.verdict = .fail
  smallest : ∀ g ∈ fs, g.severity = x.severity → g.verdict = x.verdict → x.detail ≤ g.detail

@[simp] theorem mem_about
    {f : Finding} {k : String × String} {fs : List Finding} :
    f ∈ about k fs ↔ f ∈ fs ∧ f.key = k := by
  simp [about]

@[simp] theorem mem_leading
    {f : Finding} {fs : List Finding} :
    f ∈ leading fs ↔ f ∈ fs ∧ ∀ g ∈ fs, f.category.position ≤ g.category.position := by
  simp [leading]

theorem position_le_of_le
    {f g : Finding}
    (h : f.le g = true) :
    f.category.position ≤ g.category.position := by
  simp only [Finding.le, SortKey.le, SortKey.compare, Ordering.isLE_then_iff_or,
    Nat.compare_eq_lt, Std.LawfulEqCmp.compare_eq_iff_eq, sortKey] at h
  omega

/-- Within a category, findings on one rule and snapshot are told apart by severity, status and
detail before anything else. -/
theorem outranks_of_le
    {f g : Finding}
    (hle : f.le g = true)
    (hkey : g.key = f.key)
    (hposition : g.category.position ≤ f.category.position) :
    g.severity.rank < f.severity.rank ∨
      g.severity.rank = f.severity.rank ∧
        (f.verdict.status.name < g.verdict.status.name ∨
          f.verdict.status.name = g.verdict.status.name ∧ f.detail ≤ g.detail) := by
  have hid : g.ruleId = f.ruleId := congrArg Prod.fst hkey
  have hreference : g.reference = f.reference := congrArg Prod.snd hkey
  simp only [Finding.le, SortKey.le, SortKey.compare, Ordering.isLE_then_iff_or,
    Std.LawfulEqCmp.compare_eq_iff_eq, Nat.compare_eq_lt, Int.compare_eq_lt,
    compare_text_eq_lt_iff, sortKey, hid, hreference, Int.ofNat_eq_natCast] at hle
  rcases hle with hlt | ⟨_, hseverity | ⟨hseverity, hrest⟩⟩
  · omega
  · exact .inl (by omega)
  · refine .inr ⟨by omega, ?_⟩
    rcases hrest with hlt | ⟨_, hlt | ⟨_, hstatus | ⟨hstatus, hdetail⟩⟩⟩
    · exact absurd hlt (lt_irrefl _)
    · exact absurd hlt (lt_irrefl _)
    · exact .inl hstatus
    · refine .inr ⟨hstatus, ?_⟩
      rcases hdetail with hdetail | ⟨hdetail, _⟩
      · exact le_of_lt hdetail
      · exact le_of_eq hdetail

theorem verdict_eq_fail_of_status_le
    {v w : Verdict}
    (h : v.status.name ≤ w.status.name)
    (hw : w = .fail) :
    v = .fail := by
  subst hw
  revert h
  cases v <;> decide

/-- What comes first of a rule and snapshot is preferred in the leading category. -/
theorem isPreferred_leading_of_isFirst
    {x : Finding} {fs : List Finding}
    (h : x.IsFirst fs) :
    x.IsPreferred (leading (about x.key fs)) := by
  have hmem : x ∈ about x.key fs := mem_about.mpr ⟨h.1, rfl⟩
  have houtranks : ∀ g ∈ leading (about x.key fs),
      g.severity.rank < x.severity.rank ∨
        g.severity.rank = x.severity.rank ∧
          (x.verdict.status.name < g.verdict.status.name ∨
            x.verdict.status.name = g.verdict.status.name ∧ x.detail ≤ g.detail) := by
    intro g hg
    obtain ⟨hg, hleading⟩ := mem_leading.mp hg
    obtain ⟨hg, hkey⟩ := mem_about.mp hg
    exact outranks_of_le (h.2 g hg hkey) hkey (hleading x hmem)
  constructor
  · refine mem_leading.mpr ⟨hmem, fun g hg => ?_⟩
    obtain ⟨hg, hkey⟩ := mem_about.mp hg
    exact position_le_of_le (h.2 g hg hkey)
  · intro g hg
    rcases houtranks g hg with hlt | ⟨heq, _⟩
    · exact hlt.le
    · exact heq.le
  · intro g hg hseverity hfail
    rcases houtranks g hg with hlt | ⟨_, hstatus | ⟨hstatus, _⟩⟩
    · rw [hseverity] at hlt
      exact absurd hlt (lt_irrefl _)
    · exact verdict_eq_fail_of_status_le hstatus.le hfail
    · exact verdict_eq_fail_of_status_le hstatus.le hfail
  · intro g hg hseverity hverdict
    rcases houtranks g hg with hlt | ⟨_, hstatus | ⟨_, hdetail⟩⟩
    · rw [hseverity] at hlt
      exact absurd hlt (lt_irrefl _)
    · rw [hverdict] at hstatus
      exact absurd hstatus (lt_irrefl _)
    · exact hdetail

/-- Two findings preferred in lists of which one has the other's finding have the same severity,
verdict and detail, so either is preferred where the other one is. -/
theorem IsPreferred.of_mem
    {x g : Finding} {fs gs : List Finding}
    (hx : x.IsPreferred fs)
    (hg : g.IsPreferred gs)
    (hmem : g ∈ fs)
    (hsub : ∀ f ∈ fs, f ∈ gs) :
    x.IsPreferred gs := by
  have hxgs : x ∈ gs := hsub x hx.mem
  have hseverity : g.severity = x.severity := by
    apply Severity.rank_injective
    have hle := hx.mostSevere g hmem
    have hge := hg.mostSevere x hxgs
    omega
  have hverdict : g.verdict = x.verdict := by
    cases hv : g.verdict with
    | fail => exact (hx.fails g hmem hseverity hv).symm
    | inconclusive =>
      cases hw : x.verdict with
      | fail =>
        have hfail := hg.fails x hxgs hseverity.symm hw
        rw [hv] at hfail
        cases hfail
      | inconclusive => rfl
  have hdetail : x.detail ≤ g.detail := hx.smallest g hmem hseverity hverdict
  constructor
  · exact hxgs
  · intro f hf
    rw [← hseverity]
    exact hg.mostSevere f hf
  · intro f hf hsame hfail
    rw [← hverdict]
    exact hg.fails f hf (hsame.trans hseverity.symm) hfail
  · intro f hf hsame hsameVerdict
    exact hdetail.trans
      (hg.smallest f hf (hsame.trans hseverity.symm) (hsameVerdict.trans hverdict.symm))

/-- What comes first is preferred among all findings on its rule and snapshot exactly when such a
finding stands in the leading category. -/
theorem isPreferred_iff_exists_leading
    {x : Finding} {fs : List Finding}
    (h : x.IsFirst fs) :
    x.IsPreferred (about x.key fs) ↔
      ∃ g ∈ leading (about x.key fs), g.IsPreferred (about x.key fs) := by
  have hfirst := isPreferred_leading_of_isFirst h
  constructor
  · exact fun hx => ⟨x, hfirst.mem, hx⟩
  · rintro ⟨g, hg, hpreferred⟩
    exact hfirst.of_mem hpreferred hg fun f hf => (mem_leading.mp hf).1

theorem exists_isFirst
    {f : Finding} {fs : List Finding}
    (hf : f ∈ fs) :
    ∃ x : Finding, x.IsFirst fs ∧ x.key = f.key := by
  have hsorted := sorted_sort (about f.key fs)
  cases hsort : Finding.sort (about f.key fs) with
  | nil =>
    have hmem : f ∈ Finding.sort (about f.key fs) := by simp [hf]
    rw [hsort] at hmem
    cases hmem
  | cons x rest =>
    rw [hsort] at hsorted
    have hx : x ∈ about f.key fs := by
      rw [← mem_sort, hsort]
      exact List.mem_cons_self
    obtain ⟨hx, hkey⟩ := mem_about.mp hx
    refine ⟨x, ⟨hx, fun g hg hgkey => ?_⟩, hkey⟩
    have hg : g ∈ x :: rest := by
      rw [← hsort, mem_sort]
      exact mem_about.mpr ⟨hg, hgkey.trans hkey⟩
    rcases List.mem_cons.mp hg with rfl | hg
    · exact le_refl g
    · exact (List.pairwise_cons.mp hsorted).1 g hg

/-- A kept finding is the only one kept of its rule and snapshot. -/
theorem about_dedupe
    {x : Finding} {fs : List Finding}
    (hx : x ∈ dedupe fs) :
    about x.key (dedupe fs) = [x] := by
  apply List.perm_singleton.mp
  unfold about
  rw [List.perm_ext_iff_of_nodup ((nodup_dedupe fs).filter _) (List.nodup_singleton x)]
  intro f
  rw [← about, mem_about, List.mem_singleton]
  constructor
  · rintro ⟨hf, hkey⟩
    exact List.inj_on_of_nodup_map (nodup_key_dedupe fs) hf hx hkey
  · rintro rfl
    exact ⟨hx, rfl⟩

theorem about_findings_aggregate
    {x : Finding} {fs : List Finding}
    (hx : x ∈ dedupe fs)
    (minSeverity : Severity)
    (rulesEvaluated : Int)
    (counts : List (Status × Int)) :
    about x.key (aggregate fs minSeverity rulesEvaluated counts).findings =
      if x.severity.atLeast minSeverity then [x] else [] := by
  show ((dedupe fs).filter _).filter _ = _
  rw [List.filter_comm]
  show (about x.key (dedupe fs)).filter _ = _
  rw [about_dedupe hx, List.filter_singleton, cond_eq_ite]

theorem IsPreferred.atLeast_iff
    {x : Finding} {fs : List Finding}
    (hx : x.IsPreferred fs)
    (s : Severity) :
    x.severity.atLeast s = true ↔ ∃ g ∈ fs, g.severity.atLeast s = true := by
  simp only [Severity.atLeast_iff]
  constructor
  · exact fun h => ⟨x, hx.mem, h⟩
  · rintro ⟨g, hg, h⟩
    exact h.trans (hx.mostSevere g hg)

end Finding

open Finding

/-- Of each rule and snapshot exactly one finding is kept, the preferred one of the leading category,
and a report shows one down to the severities found in that category. Where the leading category has
a finding that is preferred among all of them, nothing more severe is lost: the kept one is so too,
and the report shows one down to the severities found anywhere. -/
theorem dedupe_keeps_preferred_of_leading
    (fs : List Finding)
    (k : String × String)
    (hk : ∃ f ∈ fs, f.key = k) :
    ∃ x, about k (dedupe fs) = [x] ∧
      x.IsPreferred (leading (about k fs)) ∧
      (∀ minSeverity rulesEvaluated counts,
        (∃ y ∈ (aggregate fs minSeverity rulesEvaluated counts).findings, y.key = k) ↔
          ∃ g ∈ leading (about k fs), g.severity.atLeast minSeverity = true) ∧
      ((∃ g ∈ leading (about k fs), g.IsPreferred (about k fs)) →
        x.IsPreferred (about k fs) ∧
          ∀ minSeverity rulesEvaluated counts,
            (∃ y ∈ (aggregate fs minSeverity rulesEvaluated counts).findings, y.key = k) ↔
              ∃ g ∈ about k fs, g.severity.atLeast minSeverity = true) := by
  obtain ⟨f, hf, rfl⟩ := hk
  obtain ⟨x, hfirst, hkey⟩ := exists_isFirst hf
  rw [← hkey]
  have hx : x ∈ dedupe fs := mem_dedupe_iff.mpr hfirst
  have hleading := isPreferred_leading_of_isFirst hfirst
  have hreported : ∀ minSeverity rulesEvaluated counts,
      (∃ y ∈ (aggregate fs minSeverity rulesEvaluated counts).findings, y.key = x.key) ↔
        x.severity.atLeast minSeverity = true := by
    intro minSeverity rulesEvaluated counts
    simp only [← mem_about, about_findings_aggregate hx]
    split <;> simp [*]
  refine ⟨x, about_dedupe hx, hleading, ?_, ?_⟩
  · intro minSeverity rulesEvaluated counts
    rw [hreported, hleading.atLeast_iff]
  · intro hexists
    have hpreferred := (isPreferred_iff_exists_leading hfirst).mpr hexists
    refine ⟨hpreferred, fun minSeverity rulesEvaluated counts => ?_⟩
    rw [hreported, hpreferred.atLeast_iff]

/-- Of three findings of one category on one rule and snapshot, the critical failure is kept. -/
theorem dedupe_keeps_critical_failure :
    let stale : Finding :=
      { ruleId := "ORA-1", category := .oracle, severity := .low, verdict := .fail
        detail := "a", reference := "sha256:0" }
    let unknown := { stale with severity := .critical, verdict := .inconclusive, detail := "b" }
    let failed := { stale with severity := .critical, detail := "c" }
    ∃ x, about ("ORA-1", "sha256:0") (dedupe [stale, unknown, failed]) = [x] ∧
      x.severity = .critical ∧ x.verdict = .fail := by
  intro stale unknown failed
  have hfailed : failed ∈ leading (about ("ORA-1", "sha256:0") [stale, unknown, failed]) := by decide
  obtain ⟨x, hkept, hx, _⟩ := dedupe_keeps_preferred_of_leading [stale, unknown, failed]
    ("ORA-1", "sha256:0") ⟨stale, by simp, rfl⟩
  have hcritical : x.severity = .critical := by
    have hrank : 4 ≤ x.severity.rank := hx.mostSevere failed hfailed
    cases hs : x.severity <;> simp [hs, Severity.rank] at hrank ⊢
  exact ⟨x, hkept, hcritical, hx.fails failed hfailed hcritical.symm rfl⟩

/-- A critical failure gives way to a low finding of an earlier category, and so nothing is left of
its rule and snapshot in a report of high severities. -/
theorem dedupe_loses_severity :
    let stale : Finding :=
      { ruleId := "R-1", category := .sequencer, severity := .low, verdict := .inconclusive
        detail := "stale", reference := "sha256:0" }
    let failed := { stale with category := .oracle, severity := .critical, verdict := .fail }
    about ("R-1", "sha256:0") [stale, failed] = [stale, failed] ∧
      about ("R-1", "sha256:0") (dedupe [stale, failed]) = [stale] ∧
      stale.severity.rank < failed.severity.rank ∧
      failed.severity.atLeast .high = true ∧
      (aggregate [stale, failed] .high).findings = [] := by
  intro stale failed
  have hsame : about ("R-1", "sha256:0") [stale, failed] = [stale, failed] := by decide
  have hkept : stale ∈ dedupe [stale, failed] := by
    refine mem_dedupe_iff.mpr ⟨by simp, ?_⟩
    decide
  have hall : ∀ f ∈ (aggregate [stale, failed] .high).findings, f.key = ("R-1", "sha256:0") := by
    intro f hf
    have hf : f ∈ [stale, failed] := (mem_dedupe_iff.mp (List.mem_filter.mp hf).1).1
    rw [← hsame] at hf
    exact (mem_about.mp hf).2
  have hnone : about ("R-1", "sha256:0") (aggregate [stale, failed] .high).findings = [] :=
    about_findings_aggregate hkept .high 0 []
  have hempty : (aggregate [stale, failed] .high).findings = [] :=
    (List.filter_eq_self.mpr fun f hf => decide_eq_true (hall f hf)).symm.trans hnone
  exact ⟨hsame, about_dedupe hkept, by decide, rfl, hempty⟩

end RollupAudit
