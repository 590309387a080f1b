import Mathlib.Data.List.Perm.Basic
import RollupAudit.Proofs.Evaluation.Course
import RollupAudit.Proofs.Evaluation.Isolation
import RollupAudit.Proofs.Facts.Overrides
import RollupAudit.Proofs.Rule.NonFinite
import RollupAudit.Proofs.Rule.Totality

/-!
# Evaluations of snapshots that share a canonical text

The reference of a snapshot is made of its canonical text. Snapshots that share the text are judged
alike: whatever the policy and the options, their evaluations end alike, and their reports differ in
nothing but details of findings about a parameter that is no finite number in either. Such details show
the number, of which the canonical text has only a null: findings with one rule and one reference may
differ. Two halves of a surrogate pair, side by side, are left aside: the canonical text has the character
that they make.

**Results.**
* `Report.alike_of_covers`: reports of rules that find alike on two snapshots.
* `evaluate_of_canonicalText?_eq`: evaluations of snapshots that share a canonical text.
* `evaluate_limitedChain_ne`: findings with one key that differ.
* `Check.anchorSource_splitPair`: snapshots that share the text but for a split pair, judged differently.
-/

namespace RollupAudit

/-- That a rule comes to the same on two snapshots, or that it is about a parameter and shows the number
that it is. -/
def Rule.FindsAlike (f g : Facts) (r : Rule) : Prop :=
  r.run g = r.run f ∨
    (∃ b ∈ Builtin.aboutParameters, r.id = b.id) ∧ (r.run f).ShowNonFinite f g (r.run g)

namespace Finding

/-- A finding without its detail. -/
def withoutDetail (x : Finding) : Finding := { x with detail := "" }

/-- That findings about a parameter cannot tell, and show the number that it is in either of two
snapshots. -/
structure ShowNonFinite (f g : Facts) (x y : Finding) : Prop where
  aboutParameter : ∃ b ∈ Builtin.aboutParameters, x.ruleId = b.id
  verdict_eq : x.verdict = .inconclusive
  details : ∃ name v w, f.NonFiniteIn g name v w ∧ x.detail = (Outcome.notFinite name v).detail ∧
    y.detail = (Outcome.notFinite name w).detail

/-- That findings on two snapshots are the same, or differ in the number that a parameter is. -/
structure Alike (f g : Facts) (x y : Finding) : Prop where
  withoutDetail_eq : y.withoutDetail = x.withoutDetail
  detail : y.detail = x.detail ∨ x.ShowNonFinite f g y

variable {f g : Facts}

theorem Alike.key_eq
    {x y : Finding}
    (h : x.Alike f g y) :
    y.key = x.key := by
  show y.withoutDetail.key = x.withoutDetail.key
  rw [h.withoutDetail_eq]

theorem map_withoutDetail_eq
    {xs ys : List Finding}
    (h : List.Forall₂ (Alike f g) xs ys) :
    ys.map withoutDetail = xs.map withoutDetail := by
  induction h with
  | nil => rfl
  | cons hxy _ ih => rw [List.map_cons, List.map_cons, hxy.withoutDetail_eq, ih]

/-- The order of findings by rule does not look at details. -/
theorem pairwise_of_alike
    {xs ys : List Finding}
    (h : List.Forall₂ (Alike f g) xs ys)
    (hxs : xs.Pairwise PrecedesByRule) :
    ys.Pairwise PrecedesByRule := by
  have hshort (zs : List Finding) :
      (zs.map withoutDetail).Pairwise PrecedesByRule ↔ zs.Pairwise PrecedesByRule :=
    List.pairwise_map
  rwa [← hshort, map_withoutDetail_eq h, hshort]

theorem summarize_map_withoutDetail
    (xs : List Finding) :
    summarize (xs.map withoutDetail) = summarize xs := by
  have hcategories : categoriesOf (xs.map withoutDetail) = categoriesOf xs := by
    unfold categoriesOf
    simp only [List.any_map]
    rfl
  unfold summarize
  rw [hcategories]
  simp only [List.length_map, countSeverity, countCategory, List.countP_map]
  rfl

end Finding

/-- That reports on two snapshots are the same but for findings that differ in the number that a
parameter is. -/
structure Report.Alike (f g : Facts) (report report' : Report) : Prop where
  findings : List.Forall₂ (Finding.Alike f g) report.findings report'.findings
  summary_eq : report'.summary = report.summary
  minSeverity_eq : report'.minSeverity = report.minSeverity
  rulesEvaluated_eq : report'.rulesEvaluated = report.rulesEvaluated
  outcomeCounts_eq : report'.outcomeCounts = report.outcomeCounts

/-! ## Rules that find alike -/

section Rules

variable {f g : Facts} {rules : List Rule} {least : Severity} {reference : String}

theorem Rule.FindsAlike.status_eq
    {r : Rule}
    (h : r.FindsAlike f g) :
    (r.run g).status = (r.run f).status := by
  rcases h with heq | ⟨-, name, x, y, -, hf, hg⟩
  · rw [heq]
  · rw [hf, hg]
    rfl

theorem Rule.FindsAlike.severityFor_eq
    {r : Rule}
    (h : r.FindsAlike f g) :
    r.severityFor (r.run g) = r.severityFor (r.run f) := by
  rcases h with heq | ⟨-, name, x, y, -, hf, hg⟩
  · rw [heq]
  · rw [hf, hg]
    rfl

theorem Rule.FindsAlike.isReported_eq
    {r : Rule}
    (h : r.FindsAlike f g) :
    r.isReported g least = r.isReported f least := by
  rw [isReported, isReported, h.status_eq, h.severityFor_eq]

theorem Rule.FindsAlike.reportedFinding
    {r : Rule}
    (h : r.FindsAlike f g) :
    (r.reportedFinding f reference).Alike f g (r.reportedFinding g reference) := by
  rcases h with heq | ⟨hid, name, x, y, hnone, hf, hg⟩
  · unfold Rule.reportedFinding verdictOn
    rw [heq]
    exact ⟨rfl, .inl rfl⟩
  · unfold Rule.reportedFinding verdictOn
    rw [hf, hg]
    exact ⟨rfl, .inr ⟨hid, rfl, name, x, y, hnone, rfl, rfl⟩⟩

theorem filter_isReported_eq
    (hrules : ∀ r ∈ rules, r.FindsAlike f g) :
    rules.filter (fun r => r.isReported g least) = rules.filter fun r => r.isReported f least :=
  List.filter_congr fun r hr => (hrules r hr).isReported_eq

namespace Report

variable {report report' : Report}

/-- Reports of rules that find alike on two snapshots have findings that are alike, in the same
order. -/
theorem Covers.forall₂_alike
    (hrules : ∀ r ∈ rules, r.FindsAlike f g)
    (h : report.Covers rules f reference least)
    (h' : report'.Covers rules g reference least) :
    List.Forall₂ (Finding.Alike f g) report.findings report'.findings := by
  let kept := rules.filter fun r => r.isReported f least
  have hkept : List.Forall₂ (Finding.Alike f g) (kept.map fun r => r.reportedFinding f reference)
      (kept.map fun r => r.reportedFinding g reference) := by
    rw [List.forall₂_map_left_iff, List.forall₂_map_right_iff, List.forall₂_same]
    exact fun r hr => (hrules r (List.mem_of_mem_filter hr)).reportedFinding
  -- The findings on the first snapshot in the order of its report, each replaced by its like.
  obtain ⟨replaced, halike, hperm⟩ := List.perm_comp_forall₂ h.findings_perm hkept
  have hfindings' := h'.findings_perm
  rw [filter_isReported_eq hrules] at hfindings'
  have heq : replaced = report'.findings := by
    refine (hperm.trans hfindings'.symm).eq_of_pairwise ?_
      (Finding.pairwise_of_alike halike h.increasing) h'.increasing
    intro x y _ _ hxy hyx
    exact absurd hyx hxy.asymm
  rwa [heq] at halike

theorem Covers.outcomeCounts_eq_of_findsAlike
    (hrules : ∀ r ∈ rules, r.FindsAlike f g)
    (h : report.Covers rules f reference least)
    (h' : report'.Covers rules g reference least) :
    report'.outcomeCounts = report.outcomeCounts := by
  rw [h.outcomeCounts_eq, h'.outcomeCounts_eq]
  apply List.map_congr_left
  intro s _
  have hcount : (rules.countP fun r => (r.run g).status = s) =
      rules.countP fun r => (r.run f).status = s :=
    List.countP_congr fun r hr => by rw [(hrules r hr).status_eq]
  rw [hcount]

/-- Reports of rules that find alike on two snapshots are alike. -/
theorem alike_of_covers
    (hrules : ∀ r ∈ rules, r.FindsAlike f g)
    (h : report.Covers rules f reference least)
    (h' : report'.Covers rules g reference least)
    (hsummary : report.summary = summarize report.findings)
    (hsummary' : report'.summary = summarize report'.findings) :
    report.Alike f g report' where
  findings := h.forall₂_alike hrules h'
  summary_eq := by
    rw [hsummary, hsummary', ← Finding.summarize_map_withoutDetail report'.findings,
      Finding.map_withoutDetail_eq (h.forall₂_alike hrules h'), Finding.summarize_map_withoutDetail]
  minSeverity_eq := by rw [h.minSeverity_eq, h'.minSeverity_eq]
  rulesEvaluated_eq := by rw [h.rulesEvaluated_eq, h'.rulesEvaluated_eq]
  outcomeCounts_eq := h.outcomeCounts_eq_of_findsAlike hrules h'

/-- A report has one finding for each key. -/
theorem nodup_key_of_evaluate
    {registry : Registry} {o : EvaluationOptions} {s : Surroundings}
    (h : evaluate registry f o s = .ok report) :
    (report.findings.map Finding.key).Nodup := by
  obtain ⟨-, reference, -, rfl⟩ := evaluate_eq_ok_cases h
  have hids := registry.nodup_ids_selected o
  have hcovers : Report.Covers _ (registry.selected o) f reference o.minSeverity :=
    Evaluation.report_covers hids
  rw [(hcovers.findings_perm.map Finding.key).nodup_iff]
  exact Evaluation.nodup_key_reportedFinding hids _

/-- Findings of reports that are alike are alike if they have one key. -/
theorem Alike.of_key_eq
    (h : report.Alike f g report')
    (hkeys : (report.findings.map Finding.key).Nodup)
    {x y : Finding}
    (hx : x ∈ report.findings)
    (hy : y ∈ report'.findings)
    (hkey : x.key = y.key) :
    x.Alike f g y := by
  obtain ⟨i, rfl⟩ := List.get_of_mem hy
  have hi : i < report.findings.length := by
    rw [h.findings.length_eq]
    exact i.isLt
  have halike : (report.findings.get ⟨i, hi⟩).Alike f g (report'.findings.get i) :=
    h.findings.get hi i.isLt
  obtain rfl : x = report.findings.get ⟨i, hi⟩ :=
    List.inj_on_of_nodup_map hkeys hx (List.get_mem _ _) (hkey.trans halike.key_eq)
  exact halike

end Report
end Rules

/-! ## Built-in rules -/

section Build

variable {policy : Policy} {registry : Registry} {f g : Facts} {r : Rule}

theorem Registry.exists_build_default : ∃ registry, Registry.build {} = .ok registry := by
  have hbuilt : (Registry.build {}).toOption.isSome = true := by decide +kernel
  obtain ⟨registry, hregistry⟩ := Option.isSome_iff_exists.mp hbuilt
  exact ⟨registry, toOption_eq_some_iff.mp hregistry⟩

/-- The rules of a policy find alike on snapshots that are the same but for parameters that are no
finite numbers. -/
theorem Registry.findsAlike_of_build
    (hbuild : Registry.build policy = .ok registry)
    (h : f.SameButNonFinite g)
    (hr : r ∈ registry.rules) :
    r.FindsAlike f g := by
  obtain ⟨b, c, -, rfl⟩ := Registry.exists_builtin_of_mem hbuild hr
  exact (Builtin.run_of_sameButNonFinite h b c).imp_right fun ⟨hb, hshow⟩ => ⟨⟨b, hb, rfl⟩, hshow⟩

theorem Registry.actsAlike_of_build
    (hbuild : Registry.build policy = .ok registry)
    (hr : r ∈ registry.rules) :
    r.ActsAlike f g := by
  have hquiet := isQuiet_of_build hbuild hr
  exact ⟨(hquiet g).cancels_eq.trans (hquiet f).cancels_eq.symm,
    (hquiet g).outlasts_eq.trans (hquiet f).outlasts_eq.symm,
    (hquiet g).escape?_eq.trans (hquiet f).escape?_eq.symm⟩

/-- Reports on snapshots that are the same but for parameters that are no finite numbers are alike. -/
theorem Report.alike_of_evaluate
    {o : EvaluationOptions} {s s' : Surroundings} {report report' : Report}
    (hbuild : Registry.build policy = .ok registry)
    (h : f.SameButNonFinite g)
    (hreport : evaluate registry f o s = .ok report)
    (hreport' : evaluate registry g o s' = .ok report') :
    report.Alike f g report' := by
  obtain ⟨-, reference, href, rfl⟩ := evaluate_eq_ok_cases hreport
  obtain ⟨-, reference', href', rfl⟩ := evaluate_eq_ok_cases hreport'
  obtain rfl : reference' = reference := by
    rw [Facts.reference?, Facts.canonicalText?, h.toJson_eq] at href'
    exact Option.some.inj (href'.symm.trans href)
  have hids := registry.nodup_ids_selected o
  have hcovers {k : Facts} : Report.Covers _ (registry.selected o) k reference' o.minSeverity :=
    Evaluation.report_covers hids
  have hrules : ∀ r ∈ registry.selected o, r.FindsAlike f g := fun r hr =>
    Registry.findsAlike_of_build hbuild h (List.mem_of_mem_filter hr)
  exact Report.alike_of_covers hrules hcovers hcovers rfl rfl

end Build

/-! ## A gas limit that is no finite number -/

namespace Facts

/-- The chain with a float as the limit of gas. -/
def limitedChain (x : Binary64) : Facts :=
  { bareChain with parameters := [("block_gas_limit", .float x)] }

theorem isReachable_limitedChain
    (x : Binary64) :
    (limitedChain x).IsReachable := by
  have hnamed : Parameter.IsNamed (limitedChain x).parameters :=
    ⟨List.forall_mem_singleton.mpr (show Text.isBlankText "block_gas_limit" = false by decide +kernel),
      List.nodup_singleton _, List.pairwise_singleton _ _⟩
  refine .ofValue (v := (limitedChain x).toValue) (ofValue_eq_ok_iff.mpr ⟨_, rfl, ⟨rfl, rfl⟩, ?_⟩)
  exact ⟨rfl, chainId_of_lookup? rfl, rfl, rfl, rfl, rfl, rfl, rfl, rfl,
    Fields.optional_eq_accepted_iff.mpr (.inr ⟨_, rfl, Parameter.readAll_mapping hnamed⟩)⟩

theorem exists_canonicalText?_limitedChain :
    ∃ text, (limitedChain .nan).canonicalText? = some text ∧
      (limitedChain (.infinite false)).canonicalText? = some text := by
  have hwritable : (limitedChain .nan).toJson.isWritable = true := by decide +kernel
  have htext : (limitedChain .nan).canonicalText? =
      some ((limitedChain .nan).toJson.write .compact) := by
    rw [canonicalText?, Json.write?, if_pos hwritable]
  -- All that is no finite number has one form in JSON.
  exact ⟨_, htext, htext⟩

variable {policy : Policy} {registry : Registry} {x : Binary64} {text : String} {report : Report}

theorem exists_evaluate_limitedChain
    (hbuild : Registry.build policy = .ok registry)
    (htext : (limitedChain x).canonicalText? = some text) :
    ∃ report, evaluate registry (limitedChain x) = .ok report := by
  have href : (limitedChain x).reference? = some (referenceOf text) := by
    rw [reference?, htext]
    rfl
  exact ⟨_, evaluate_eq_ok href (.inl rfl) rfl rfl (fun h => by cases h)
    (Registry.escape?_of_build hbuild _ {})⟩

/-- The rule about the limit of gas shows a limit that is no finite number. -/
theorem exists_finding_limitedChain
    (hbuild : Registry.build {} = .ok registry)
    (htext : (limitedChain x).canonicalText? = some text)
    (hx : x.isFinite = false)
    (hreport : evaluate registry (limitedChain x) = .ok report) :
    ∃ y ∈ report.findings, y.key = (Builtin.blockGasLimit.id, referenceOf text) ∧
      y.detail = (Outcome.notFinite "block_gas_limit" x).detail := by
  obtain ⟨-, reference, href, rfl⟩ := evaluate_eq_ok_cases hreport
  obtain rfl : referenceOf text = reference := by
    rw [reference?, htext] at href
    exact Option.some.inj href
  have hid : Builtin.blockGasLimit.id ∈ registry.ids := by
    rw [Registry.ids_of_build_builtin hbuild]
    exact List.mem_map_of_mem (Builtin.mem_all _)
  obtain ⟨r, hr, hrid⟩ := List.mem_map.mp hid
  obtain ⟨b, c, hc, rfl⟩ := Registry.exists_builtin_of_mem hbuild hr
  obtain rfl : b = .blockGasLimit := Builtin.id_injective hrid
  cases hc
  let rule := Builtin.blockGasLimit.rule (.default _)
  have hrun : rule.run (limitedChain x) = .notFinite "block_gas_limit" x := by
    have hquantity : Check.quantity (limitedChain x) "block_gas_limit" = .inr _ :=
      Check.quantity_nonFinite rfl hx
    show (Attempt.ofCheck (Check.blockGasLimit "block_gas_limit" _ (limitedChain x))).outcome = _
    unfold Check.blockGasLimit
    rw [hquantity]
    rfl
  have hreported : rule.isReported (limitedChain x) .info = true := by
    rw [Rule.isReported, hrun]
    rfl
  have hselected : rule ∈ registry.selected {} := List.mem_filter.mpr ⟨hr, rfl⟩
  have hcovers : Report.Covers _ (registry.selected {}) (limitedChain x) (referenceOf text)
      (EvaluationOptions.minSeverity {}) :=
    Evaluation.report_covers (registry.nodup_ids_selected {})
  refine ⟨rule.reportedFinding (limitedChain x) (referenceOf text), ?_, rfl, ?_⟩
  · exact hcovers.findings_perm.mem_iff.mpr
      (List.mem_map_of_mem (List.mem_filter.mpr ⟨hselected, hreported⟩))
  · rw [Rule.reportedFinding, hrun]

end Facts

/-! ## Evaluations -/

/-- Evaluations of snapshots that share a canonical text end alike, and their reports are alike, if no
halves in the texts of the snapshots make a surrogate pair. So are findings of one rule and reference. If
the parameters are finite, then the snapshots are the same. -/
theorem evaluate_of_canonicalText?_eq
    {policy : Policy} {registry : Registry} {f g : Facts} {text : String}
    (hbuild : Registry.build policy = .ok registry)
    (hf : f.IsReachable)
    (hg : g.IsReachable)
    (hwhole : f.toJson.isWhole = true)
    (hwhole' : g.toJson.isWhole = true)
    (htext : f.canonicalText? = some text)
    (htext' : g.canonicalText? = some text)
    (o : EvaluationOptions) :
    ((∀ p ∈ f.parameters, p.2.IsFinite) → g = f) ∧
      (∀ s, Evaluation.course (evaluate registry g o s) =
        Evaluation.course (evaluate registry f o s)) ∧
      ∀ s s' report report', evaluate registry f o s = .ok report →
        evaluate registry g o s' = .ok report' →
        report.Alike f g report' ∧
          ∀ x ∈ report.findings, ∀ y ∈ report'.findings, x.key = y.key → x.Alike f g y := by
  have hsame : f.SameButNonFinite g :=
    (Facts.sameButNonFinite_iff (Facts.isNormal_of_ofValue hf.ofValue_toValue)
      (Facts.isNormal_of_ofValue hg.ofValue_toValue) hwhole hwhole' htext).mp htext'
  have href : g.reference? = f.reference? := by
    rw [Facts.reference?, Facts.reference?, htext, htext']
  refine ⟨hsame.eq, fun s => ?_, fun s s' report report' hreport hreport' => ?_⟩
  · exact course_evaluate href fun r hr =>
      Registry.actsAlike_of_build hbuild (List.mem_of_mem_filter hr)
  · have halike := Report.alike_of_evaluate hbuild hsame hreport hreport'
    exact ⟨halike, fun x hx y hy =>
      halike.of_key_eq (Report.nodup_key_of_evaluate hreport) hx hy⟩

/-- A limit that is not a number and one that is infinite are judged alike. -/
theorem evaluate_limitedChain_alike :
    ∃ text registry report report',
      (Facts.limitedChain .nan).canonicalText? = some text ∧
        (Facts.limitedChain (.infinite false)).canonicalText? = some text ∧
        Registry.build {} = .ok registry ∧
        evaluate registry (Facts.limitedChain .nan) = .ok report ∧
        evaluate registry (Facts.limitedChain (.infinite false)) = .ok report' ∧
        report.Alike (Facts.limitedChain .nan) (Facts.limitedChain (.infinite false)) report' := by
  obtain ⟨text, htext, htext'⟩ := Facts.exists_canonicalText?_limitedChain
  obtain ⟨registry, hbuild⟩ := Registry.exists_build_default
  obtain ⟨report, hreport⟩ := Facts.exists_evaluate_limitedChain hbuild htext
  obtain ⟨report', hreport'⟩ := Facts.exists_evaluate_limitedChain hbuild htext'
  obtain ⟨-, -, halike⟩ := evaluate_of_canonicalText?_eq hbuild (Facts.isReachable_limitedChain _)
    (Facts.isReachable_limitedChain _) (by decide +kernel) (by decide +kernel) htext htext' {}
  exact ⟨text, registry, report, report', htext, htext', hbuild, hreport, hreport',
    (halike {} {} report report' hreport hreport').1⟩

/-- A limit that is not a number and one that is infinite have one canonical text, and the findings about
them one key. Their details differ. -/
theorem evaluate_limitedChain_ne :
    (Facts.limitedChain .nan).IsReachable ∧ (Facts.limitedChain (.infinite false)).IsReachable ∧
      ∃ text registry report report',
        (Facts.limitedChain .nan).canonicalText? = some text ∧
          (Facts.limitedChain (.infinite false)).canonicalText? = some text ∧
          Registry.build {} = .ok registry ∧
          evaluate registry (Facts.limitedChain .nan) = .ok report ∧
          evaluate registry (Facts.limitedChain (.infinite false)) = .ok report' ∧
          report' ≠ report ∧
          ∃ x ∈ report.findings, ∃ y ∈ report'.findings, x.key = y.key ∧ x.detail ≠ y.detail := by
  obtain ⟨text, htext, htext'⟩ := Facts.exists_canonicalText?_limitedChain
  obtain ⟨registry, hbuild⟩ := Registry.exists_build_default
  obtain ⟨report, hreport⟩ := Facts.exists_evaluate_limitedChain hbuild htext
  obtain ⟨report', hreport'⟩ := Facts.exists_evaluate_limitedChain hbuild htext'
  obtain ⟨x, hx, hkey, hdetail⟩ := Facts.exists_finding_limitedChain hbuild htext rfl hreport
  obtain ⟨y, hy, hkey', hdetail'⟩ := Facts.exists_finding_limitedChain hbuild htext' rfl hreport'
  have hne : x.detail ≠ y.detail := by
    rw [hdetail, hdetail']
    decide +kernel
  refine ⟨Facts.isReachable_limitedChain _, Facts.isReachable_limitedChain _, text, registry, report,
    report', htext, htext', hbuild, hreport, hreport', ?_, x, hx, y, hy, hkey.trans hkey'.symm, hne⟩
  rintro rfl
  -- A report has one finding for a key.
  have hxy : x = y := List.inj_on_of_nodup_map (Report.nodup_key_of_evaluate hreport) hx hy
    (hkey.trans hkey'.symm)
  exact hne (congrArg Finding.detail hxy)

/-- A registry with a split pair has one canonical text with the registry with the character, which may be
the only one that is trusted. -/
theorem Check.anchorSource_splitPair :
    (Facts.sourcedChain Facts.splitPair).canonicalText? =
        (Facts.sourcedChain Facts.joinedPair).canonicalText? ∧
      (anchorSource [Facts.joinedPair] (Facts.sourcedChain Facts.joinedPair)).status = .pass ∧
      (anchorSource [Facts.joinedPair] (Facts.sourcedChain Facts.splitPair)).status = .fail := by
  refine ⟨?_, by decide +kernel, by decide +kernel⟩
  rw [Facts.canonicalText?, Facts.canonicalText?, Json.write?, Json.write?,
    if_pos (Facts.isWritable_sourcedChain _), if_pos (Facts.isWritable_sourcedChain _),
    Facts.write_sourcedChain]

end RollupAudit
