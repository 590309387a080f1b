import RollupAudit.Proofs.Evaluation.Cancellation

/-!
# Sharded evaluations

The report of an evaluation depends on the set of rules and not on their order. The rules may even be
evaluated in shards: the findings of the shards, in any order, and their counts added up make the report
of all rules. As the ids of rules are distinct, no shard loses a finding that another would have kept,
and findings that a shard leaves out as not severe enough are left out of the whole report too.

**Results.**
* `Evaluation.report_perm`: the report of the same rules in another order.
* `Evaluation.report_eq_aggregate`: the report of all rules from the reports of the shards.
* `evaluate_reordered_and_sharded`: both for evaluations.
-/

namespace RollupAudit

namespace Evaluation

variable {f : Facts} {o : EvaluationOptions} {rules rules' : List Rule} {reference : String}

theorem aggregate_eq_of_findings_eq
    {fs gs : List Finding} {least : Severity} {number number' : Int}
    {counts counts' : List (Status × Int)}
    (hfindings : ((dedupe fs).filter fun x => x.severity.atLeast least) =
      (dedupe gs).filter fun x => x.severity.atLeast least)
    (hnumber : number = number')
    (hcounts : allCounts counts = allCounts counts') :
    aggregate fs least number counts = aggregate gs least number' counts' := by
  unfold aggregate
  rw [hfindings, hnumber, hcounts]

/-- The report of rules is the same for every order of the rules. -/
theorem report_perm
    (h : rules.Perm rules') :
    report o reference rules (rules.map (Judgement.of f)) =
      report o reference rules' (rules'.map (Judgement.of f)) := by
  have hjudgements := h.map (Judgement.of f)
  have hcounts : Judgement.counts (rules.map (Judgement.of f)) =
      Judgement.counts (rules'.map (Judgement.of f)) :=
    List.map_congr_left fun s _ => by rw [hjudgements.countP_eq]
  unfold report aggregate
  rw [hcounts, h.length_eq, dedupe_congr fun x => (hjudgements.filterMap _).mem_iff]

/-- Each finding that a report of rules has is severe enough. -/
theorem filter_atLeast_reportedFinding
    (least : Severity) :
    (((rules.filter fun r => r.isReported f least).map fun r => r.reportedFinding f reference).filter
        fun x => x.severity.atLeast least) =
      (rules.filter fun r => r.isReported f least).map fun r => r.reportedFinding f reference := by
  refine List.filter_eq_self.mpr fun x hx => ?_
  obtain ⟨r, hr, rfl⟩ := List.mem_map.mp hx
  exact (Bool.and_eq_true_iff.mp (List.mem_filter.mp hr).2).2

theorem flatMap_findings_perm
    {groups : List (List Rule)} {reports : List Report} {least : Severity}
    (h : List.Forall₂ (fun group report => report.Covers group f reference least) groups reports) :
    (reports.flatMap Report.findings).Perm
      ((groups.flatten.filter fun r => r.isReported f least).map fun r => r.reportedFinding f reference) := by
  induction h with
  | nil => rfl
  | cons hcovers _ ih =>
    rw [List.flatMap_cons, List.flatten_cons, List.filter_append, List.map_append]
    exact hcovers.findings_perm.append ih

/-- The numbers of rules and of outcomes of shards add up to those of all rules. -/
theorem sums_of_covers
    {groups : List (List Rule)} {reports : List Report} {least : Severity}
    (h : List.Forall₂ (fun group report => report.Covers group f reference least) groups reports) :
    (reports.map Report.rulesEvaluated).sum = groups.flatten.length ∧
      ∀ s, (reports.map fun report => report.countOf s).sum =
        ((groups.flatten.countP fun r => (r.run f).status = s : Nat) : Int) := by
  induction h with
  | nil => exact ⟨rfl, fun s => rfl⟩
  | cons hcovers _ ih =>
    constructor
    · rw [List.map_cons, List.sum_cons, ih.1, hcovers.rulesEvaluated_eq, List.flatten_cons,
        List.length_append, Nat.cast_add]
    · intro s
      rw [List.map_cons, List.sum_cons, ih.2 s, Report.countOf_eq hcovers.outcomeCounts_eq,
        List.flatten_cons, List.countP_append, Nat.cast_add]

/-- The report of all rules is made of the findings of the shards, in whatever order, and of their
numbers added up. -/
theorem report_eq_aggregate
    {groups : List (List Rule)} {reports : List Report} {fs : List Finding}
    (hids : (rules.map Rule.id).Nodup)
    (hgroups : rules.Perm groups.flatten)
    (hreports : List.Forall₂ (fun group report => report.Covers group f reference o.minSeverity)
      groups reports)
    (hfs : fs.Perm (reports.flatMap Report.findings)) :
    report o reference rules (rules.map (Judgement.of f)) =
      aggregate fs o.minSeverity (reports.map Report.rulesEvaluated).sum
        (Report.totalCounts reports) := by
  have hcovers : Report.Covers _ rules f reference o.minSeverity := report_covers (o := o) hids
  let found := (rules.filter fun r => r.isReported f o.minSeverity).map
    fun r => r.reportedFinding f reference
  have hfound : fs.Perm found :=
    hfs.trans ((flatMap_findings_perm hreports).trans ((hgroups.symm.filter _).map _))
  -- No two of the findings are about one rule, and so all of them are kept.
  have hkept : (dedupe fs).Perm fs := by
    apply dedupe_perm_of_nodup_key
    rw [(hfound.map Finding.key).nodup_iff]
    exact nodup_key_reportedFinding hids _
  have hall := (hkept.trans hfound).filter fun x => x.severity.atLeast o.minSeverity
  rw [filter_atLeast_reportedFinding] at hall
  obtain ⟨hnumber, hsums⟩ := sums_of_covers hreports
  unfold report
  apply aggregate_eq_of_findings_eq
  · exact Finding.eq_of_perm_of_sorted (hcovers.findings_perm.trans hall.symm)
      ((sorted_dedupe _).sublist List.filter_sublist)
      ((sorted_dedupe fs).sublist List.filter_sublist)
  · rw [hnumber, hgroups.length_eq]
    rfl
  · refine hcovers.outcomeCounts_eq.trans ?_
    rw [Report.totalCounts, allCounts_map]
    exact List.map_congr_left fun s _ => by rw [hsums s, hgroups.countP_eq]

end Evaluation

namespace EvaluationOptions

/-- That options select by categories that they do not share, or by ids that they do not share. -/
inductive Apart (o o' : EvaluationOptions) : Prop
  | byCategories {cs cs' : List Category} (hcs : o.categories = some cs)
      (hcs' : o'.categories = some cs') (h : ∀ c ∈ cs, c ∉ cs')
  | byRuleIds {ids ids' : List String} (hids : o.ruleIds = some ids) (hids' : o'.ruleIds = some ids')
      (h : ∀ id ∈ ids, id ∉ ids')

/-- That the rules that options select of a registry are split among the options of shards. -/
structure SplitInto (o : EvaluationOptions) (g : Registry) (shards : List EvaluationOptions) : Prop where
  minSeverity_eq : ∀ shard ∈ shards, shard.minSeverity = o.minSeverity
  selects_iff : ∀ r ∈ g.rules, o.selects r = true ↔ ∃ shard ∈ shards, shard.selects r = true
  apart : shards.Pairwise Apart

/-- That nothing keeps an evaluation from its report but a lack of workers or an error that leaves the run
of a rule: nobody cancels it, it has no time limit, and the workers of a pool finish every task. -/
structure Unhindered (o : EvaluationOptions) (g : Registry) (f : Facts) (s : Surroundings) : Prop where
  undisturbed : o.Undisturbed s f (g.selected o)
  timeLimit_eq : o.timeLimit = none
  schedules : o.usesPool (g.selected o).length = true →
    o.lacksWorkers (g.selected o).length = false → o.schedules s (g.selected o).length = true

theorem Apart.not_selects
    {o o' : EvaluationOptions} {r : Rule}
    (h : o.Apart o')
    (hr : o.selects r = true) :
    o'.selects r ≠ true := by
  intro hr'
  obtain ⟨hcategory, hid⟩ := Bool.and_eq_true_iff.mp hr
  obtain ⟨hcategory', hid'⟩ := Bool.and_eq_true_iff.mp hr'
  cases h with
  | byCategories hcs hcs' hdisjoint =>
    rw [hcs] at hcategory
    rw [hcs'] at hcategory'
    exact hdisjoint _ (List.contains_iff_mem.mp hcategory) (List.contains_iff_mem.mp hcategory')
  | byRuleIds hids hids' hdisjoint =>
    rw [hids] at hid
    rw [hids'] at hid'
    exact hdisjoint _ (List.contains_iff_mem.mp hid) (List.contains_iff_mem.mp hid')

end EvaluationOptions

theorem Registry.mem_selected_iff
    {g : Registry} {o : EvaluationOptions} {r : Rule} :
    r ∈ g.selected o ↔ r ∈ g.rules ∧ o.selects r = true :=
  List.mem_filter

/-- The selected rules are those of the shards. -/
theorem EvaluationOptions.SplitInto.mem_selected_iff
    {g : Registry} {o : EvaluationOptions} {shards : List EvaluationOptions} {r : Rule}
    (h : o.SplitInto g shards) :
    r ∈ g.selected o ↔ ∃ shard ∈ shards, r ∈ g.selected shard := by
  rw [Registry.mem_selected_iff]
  constructor
  · rintro ⟨hr, hselects⟩
    obtain ⟨shard, hshard, hselects⟩ := (h.selects_iff r hr).mp hselects
    exact ⟨shard, hshard, Registry.mem_selected_iff.mpr ⟨hr, hselects⟩⟩
  · rintro ⟨shard, hshard, hr⟩
    obtain ⟨hr, hselects⟩ := Registry.mem_selected_iff.mp hr
    exact ⟨hr, (h.selects_iff r hr).mpr ⟨shard, hshard, hselects⟩⟩

/-- Every selected rule is in one shard, once. -/
theorem Registry.selected_perm_flatten
    {g : Registry} {o : EvaluationOptions} {shards : List EvaluationOptions}
    (h : o.SplitInto g shards) :
    (g.selected o).Perm (shards.map g.selected).flatten := by
  have hnodup (o : EvaluationOptions) : (g.selected o).Nodup := .of_map _ (g.nodup_ids_selected o)
  have hdisjoint : (shards.map g.selected).Pairwise List.Disjoint := by
    refine List.pairwise_map.mpr (h.apart.imp fun hapart r hr hr' => ?_)
    exact hapart.not_selects (mem_selected_iff.mp hr).2 (mem_selected_iff.mp hr').2
  have hflat : (shards.map g.selected).flatten.Nodup := by
    refine List.nodup_flatten.mpr ⟨fun group hgroup => ?_, hdisjoint⟩
    obtain ⟨shard, -, rfl⟩ := List.mem_map.mp hgroup
    exact hnodup shard
  refine (List.perm_ext_iff_of_nodup (hnodup o) hflat).mpr fun r => ?_
  rw [h.mem_selected_iff, ← List.flatMap_def, List.mem_flatMap]

section Evaluate

variable {g : Registry} {f : Facts} {o : EvaluationOptions} {s : Surroundings} {reference : String}

/-- An evaluation that nothing hinders gives the report of what the selected rules come to on their own, or
has no worker. -/
theorem evaluate_of_unhindered
    (href : f.reference? = some reference)
    (h : o.Unhindered g f s) :
    evaluate g f o s =
      if o.lacksWorkers (g.selected o).length then .error .noWorkers
      else (Evaluation.judged f (g.selected o)).map (Evaluation.report o reference (g.selected o)) := by
  split
  · rename_i hworkers
    rw [evaluate_eq href, Evaluation.judgements_eq_noWorkers hworkers]
    rfl
  · rename_i hworkers
    have hworkers := Bool.eq_false_iff.mpr hworkers
    exact evaluate_eq_judged href h.undisturbed h.timeLimit_eq hworkers fun hparallel hmany =>
      h.schedules (EvaluationOptions.usesPool_eq_true_iff.mpr ⟨hparallel, hmany⟩) hworkers

/-- It gives a report exactly if it has a worker and no error leaves the run of a selected rule. -/
theorem evaluate_of_unhindered_eq_ok_iff
    (href : f.reference? = some reference)
    (h : o.Unhindered g f s)
    {report : Report} :
    evaluate g f o s = .ok report ↔
      o.lacksWorkers (g.selected o).length = false ∧ Evaluation.escape? f (g.selected o) = none ∧
        report = Evaluation.report o reference (g.selected o)
          ((g.selected o).map (Judgement.of f)) := by
  rw [evaluate_of_unhindered href h]
  cases o.lacksWorkers (g.selected o).length
  · simp only [Bool.false_eq_true, if_false, map_eq_ok_iff, Evaluation.judged_eq_ok_iff, true_and]
    constructor
    · rintro ⟨js, ⟨hescape, rfl⟩, rfl⟩
      exact ⟨hescape, rfl⟩
    · rintro ⟨hescape, rfl⟩
      exact ⟨_, ⟨hescape, rfl⟩, rfl⟩
  · simp

/-- The same rules in another order are evaluated alike, and with the same result where no error leaves the
run of one. -/
theorem evaluate_of_perm
    {g' : Registry} {s' : Surroundings}
    (href : f.reference? = some reference)
    (h : o.Unhindered g f s)
    (h' : o.Unhindered g' f s')
    (hrules : g'.rules.Perm g.rules) :
    (evaluate g' f o s').toOption = (evaluate g f o s).toOption ∧
      ((∀ r ∈ g.selected o, (r.attempt f).escape? = none) →
        evaluate g' f o s' = evaluate g f o s) := by
  have hselected : (g'.selected o).Perm (g.selected o) := hrules.filter _
  have hescape : Evaluation.escape? f (g'.selected o) = none ↔
      Evaluation.escape? f (g.selected o) = none := by
    simp only [Evaluation.escape?_eq_none_iff, hselected.mem_iff]
  constructor
  · ext report
    rw [toOption_eq_some_iff, toOption_eq_some_iff, evaluate_of_unhindered_eq_ok_iff href h,
      evaluate_of_unhindered_eq_ok_iff href h', hselected.length_eq, hescape,
      Evaluation.report_perm hselected]
  · intro hnone
    rw [← Evaluation.escape?_eq_none_iff] at hnone
    rw [evaluate_of_unhindered href h, evaluate_of_unhindered href h',
      Evaluation.judged_eq_ok hnone, Evaluation.judged_eq_ok (hescape.mpr hnone), hselected.length_eq]
    simp only [Except.map, Evaluation.report_perm hselected]

section Shards

variable {shards : List (EvaluationOptions × Surroundings)}

/-- Where no error leaves the run of a selected rule, each shard has a report. -/
theorem exists_reports_of_splitInto
    (href : f.reference? = some reference)
    (hsplit : o.SplitInto g (shards.map Prod.fst))
    (hshards : ∀ shard ∈ shards, shard.1.Unhindered g f shard.2 ∧
      shard.1.lacksWorkers (g.selected shard.1).length = false)
    (hnone : ∀ r ∈ g.selected o, (r.attempt f).escape? = none) :
    ∃ reports, List.Forall₂ (fun shard report => evaluate g f shard.1 shard.2 = .ok report)
      shards reports := by
  have heach : ∀ shard ∈ shards, ∃ report, evaluate g f shard.1 shard.2 = .ok report := by
    intro shard hshard
    obtain ⟨hunhindered, hworkers⟩ := hshards shard hshard
    refine ⟨_, (evaluate_of_unhindered_eq_ok_iff href hunhindered).mpr ⟨hworkers, ?_, rfl⟩⟩
    exact Evaluation.escape?_eq_none_iff.mpr fun r hr =>
      hnone r (hsplit.mem_selected_iff.mpr ⟨shard.1, List.mem_map_of_mem hshard, hr⟩)
  obtain ⟨reports, hreports⟩ := exists_mapM_eq_ok_iff.mpr heach
  exact ⟨reports, mapM_eq_ok_iff.mp hreports⟩

/-- If each shard has a report, then no error leaves the run of a selected rule, and the reports cover the
rules of their shards. -/
theorem covers_of_splitInto
    {reports : List Report}
    (href : f.reference? = some reference)
    (hsplit : o.SplitInto g (shards.map Prod.fst))
    (hshards : ∀ shard ∈ shards, shard.1.Unhindered g f shard.2)
    (hreports : List.Forall₂ (fun shard report => evaluate g f shard.1 shard.2 = .ok report)
      shards reports) :
    Evaluation.escape? f (g.selected o) = none ∧
      List.Forall₂ (fun group report => Report.Covers report group f reference o.minSeverity)
        ((shards.map Prod.fst).map g.selected) reports := by
  constructor
  · refine Evaluation.escape?_eq_none_iff.mpr fun r hr => ?_
    obtain ⟨_, hmem, hr⟩ := hsplit.mem_selected_iff.mp hr
    obtain ⟨shard, hshard, rfl⟩ := List.mem_map.mp hmem
    obtain ⟨report, -, hreport⟩ := exists_mem_of_forall₂ hreports hshard
    obtain ⟨-, hescape, -⟩ := (evaluate_of_unhindered_eq_ok_iff href (hshards shard hshard)).mp hreport
    exact Evaluation.escape?_eq_none_iff.mp hescape r hr
  · rw [List.map_map]
    refine List.forall₂_map_left_iff.mpr
      (((List.forall₂_and_left _ _).mpr ⟨fun _ hshard => hshard, hreports⟩).imp ?_)
    rintro shard report ⟨hshard, hreport⟩
    obtain ⟨-, -, rfl⟩ := (evaluate_of_unhindered_eq_ok_iff href (hshards shard hshard)).mp hreport
    rw [← hsplit.minSeverity_eq shard.1 (List.mem_map_of_mem hshard)]
    exact Evaluation.report_covers (g.nodup_ids_selected shard.1)

end Shards

/-- An evaluation gives the same report for every order of the rules in the registry, or none for any
order. Where its rules are split into shards, the findings of the evaluations of the shards, in any order,
and their numbers added up aggregate to its report. There are the reports if no error leaves the run of a
selected rule. -/
theorem evaluate_reordered_and_sharded
    (href : f.reference? = some reference)
    (hrun : o.Unhindered g f s) :
    (∀ g' s', g'.rules.Perm g.rules → o.Unhindered g' f s' →
      (evaluate g' f o s').toOption = (evaluate g f o s).toOption ∧
        ((∀ r ∈ g.selected o, (r.attempt f).escape? = none) →
          evaluate g' f o s' = evaluate g f o s)) ∧
    (o.lacksWorkers (g.selected o).length = false →
      ((∀ r ∈ g.selected o, (r.attempt f).escape? = none) →
        ∃ report, evaluate g f o s = .ok report) ∧
      ∀ shards : List (EvaluationOptions × Surroundings),
        o.SplitInto g (shards.map Prod.fst) →
        (∀ shard ∈ shards, shard.1.Unhindered g f shard.2 ∧
          shard.1.lacksWorkers (g.selected shard.1).length = false) →
        ((∀ r ∈ g.selected o, (r.attempt f).escape? = none) →
          ∃ reports,
            List.Forall₂ (fun shard report => evaluate g f shard.1 shard.2 = .ok report)
              shards reports) ∧
        ∀ reports,
          List.Forall₂ (fun shard report => evaluate g f shard.1 shard.2 = .ok report)
            shards reports →
          ∀ fs, fs.Perm (reports.flatMap Report.findings) →
            evaluate g f o s =
              .ok (aggregate fs o.minSeverity (reports.map Report.rulesEvaluated).sum
                (Report.totalCounts reports))) := by
  refine ⟨fun g' s' hrules hrun' => evaluate_of_perm href hrun hrun' hrules, fun hworkers => ⟨?_, ?_⟩⟩
  · intro hnone
    exact ⟨_, (evaluate_of_unhindered_eq_ok_iff href hrun).mpr
      ⟨hworkers, Evaluation.escape?_eq_none_iff.mpr hnone, rfl⟩⟩
  · intro shards hsplit hshards
    refine ⟨exists_reports_of_splitInto href hsplit hshards, fun reports hreports fs hfs => ?_⟩
    obtain ⟨hnone, hcovers⟩ :=
      covers_of_splitInto href hsplit (fun shard hshard => (hshards shard hshard).1) hreports
    rw [(evaluate_of_unhindered_eq_ok_iff href hrun).mpr ⟨hworkers, hnone, rfl⟩]
    exact congrArg Except.ok (Evaluation.report_eq_aggregate (g.nodup_ids_selected o)
      (Registry.selected_perm_flatten hsplit) hcovers hfs)

/-- The registry of the rules to try in the opposite order. -/
def reversedRegistry : Registry where
  rules := trialRules.reverse
  nodup_ids := by decide

/-- Two shards of the rules to try: two workers at those about the sequencer, and the others one by
one. -/
def trialShards : List (EvaluationOptions × Surroundings) := [
  ({ trialOptions with categories := some [.sequencer] }, {}),
  ({ minSeverity := .low, categories := some [.oracle, .upgrade] }, {})]

theorem trialShards_splitInto :
    trialOptions.SplitInto trialRegistry (trialShards.map Prod.fst) where
  minSeverity_eq := by decide
  selects_iff := by decide
  apart := .cons (fun _ h => by
      cases List.mem_singleton.mp h
      exact .byCategories rfl rfl (by decide))
    (.cons (fun _ h => nomatch h) .nil)

/-- Two workers give the same for the rules to try in either order, and the shards aggregate to it. -/
theorem evaluate_reordered_and_sharded_trialRules :
    evaluate reversedRegistry trialFacts trialOptions trialSurroundings =
        evaluate trialRegistry trialFacts trialOptions trialSurroundings ∧
      ∃ reports : List Report, reports.length = 2 ∧
        evaluate trialRegistry trialFacts trialOptions trialSurroundings =
          .ok (aggregate (reports.flatMap Report.findings).reverse .low
            (reports.map Report.rulesEvaluated).sum (Report.totalCounts reports)) := by
  obtain ⟨reference, href⟩ := trialFacts_reference
  have hrun : trialOptions.Unhindered trialRegistry trialFacts trialSurroundings :=
    ⟨.inl rfl, rfl, fun _ _ => trialEvents_schedules⟩
  have hrun' : trialOptions.Unhindered reversedRegistry trialFacts trialSurroundings :=
    ⟨.inl rfl, rfl, fun _ _ => trialEvents_schedules⟩
  have hshards : ∀ shard ∈ trialShards,
      shard.1.Unhindered trialRegistry trialFacts shard.2 ∧
        shard.1.lacksWorkers (trialRegistry.selected shard.1).length = false := by
    intro shard hshard
    rcases List.mem_pair.mp hshard with rfl | rfl
    · exact ⟨⟨.inl rfl, rfl, fun _ _ => by decide⟩, rfl⟩
    · exact ⟨⟨.inl rfl, rfl, fun hpool => by cases hpool⟩, rfl⟩
  obtain ⟨hreordered, hsharded⟩ := evaluate_reordered_and_sharded href hrun
  obtain ⟨hreports, hwhole⟩ := (hsharded rfl).2 trialShards trialShards_splitInto hshards
  obtain ⟨reports, hreports⟩ := hreports (by decide)
  exact ⟨(hreordered _ _ (List.reverse_perm trialRules) hrun').2 (by decide), reports,
    hreports.length_eq.symm, hwhole reports hreports _ (List.reverse_perm _)⟩

end Evaluate
end RollupAudit
