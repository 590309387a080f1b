import RollupAudit.Proofs.Evaluation.Reports
import RollupAudit.Proofs.Rule.Variation

/-!
# Isolation of rules

What a rule says of the facts, whether it breaks down and what the policy sets for it reaches no finding
of another rule, as long as no error leaves its run. If registries vary at a rule, then their reports have
the same findings of all other rules in the same order, and the rule counts under one status in either
report. An error that leaves the run of one rule takes the report of all with it.

**Results.**
* `evaluate_agreesOff`: reports of registries that vary at a rule agree off that rule.
* `evaluate_wordlessRegistry`: an error that leaves the run of a rule reaches all other rules.
-/

namespace RollupAudit

/-- Numbers of outcomes by status after one outcome has moved from a status to another. -/
def movedOutcome (before after : Status) (counts : List (String × Int)) : List (String × Int) :=
  counts.map fun c =>
    (c.1, c.2 - (if c.1 = before.name then 1 else 0) + (if c.1 = after.name then 1 else 0))

/-- That reports have the same findings of all rules but one, in the same order, and count the outcomes
of as many rules alike but for one. -/
structure Report.AgreesOff (id : String) (report report' : Report) : Prop where
  findings_eq : report'.findings.filter (fun x => x.ruleId ≠ id) =
    report.findings.filter fun x => x.ruleId ≠ id
  rulesEvaluated_eq : report'.rulesEvaluated = report.rulesEvaluated
  outcomeCounts_eq : ∃ before after,
    report'.outcomeCounts = movedOutcome before after report.outcomeCounts

theorem Finding.PrecedesByRule.asymm
    {x y : Finding}
    (h : x.PrecedesByRule y) :
    ¬ y.PrecedesByRule x := by
  rintro (hposition' | ⟨hposition', hrank' | ⟨hrank', hid'⟩⟩) <;>
    rcases h with hposition | ⟨hposition, hrank | ⟨hrank, hid⟩⟩
  all_goals first
    | omega
    | exact String.lt_asymm hid hid'

theorem Status.name_eq_iff
    {s t : Status} :
    s.name = t.name ↔ s = t := by
  cases s <;> cases t <;> decide

section Rules

variable {id : String} {rules rules' : List Rule} {f : Facts} {o : EvaluationOptions}

theorem filter_id_eq
    (h : List.Forall₂ (Rule.SameBut id) rules rules') :
    rules'.filter (fun r => r.id ≠ id) = rules.filter fun r => r.id ≠ id := by
  induction h with
  | nil => rfl
  | @cons r r' _ _ hr _ ih =>
    by_cases hid : r.id = id
    · rw [List.filter_cons_of_neg (by simp [hr.id_eq, hid]), List.filter_cons_of_neg (by simp [hid]), ih]
    · cases hr.eq_of_ne hid
      rw [List.filter_cons_of_pos (by simp [hid]), List.filter_cons_of_pos (by simp [hid]), ih]

theorem eq_of_id_ne
    (h : List.Forall₂ (Rule.SameBut id) rules rules')
    (hne : ∀ r ∈ rules, r.id ≠ id) :
    rules' = rules := by
  induction h with
  | nil => rfl
  | cons hr _ ih =>
    rw [hr.eq_of_ne (hne _ List.mem_cons_self), ih fun r hr => hne r (List.mem_cons_of_mem _ hr)]

theorem forall₂_selected
    {R : Rule → Rule → Prop} {g g' : Registry}
    (hR : ∀ r r', R r r' → r'.id = r.id ∧ r'.category = r.category)
    (h : List.Forall₂ R g.rules g'.rules) :
    List.Forall₂ R (g.selected o) (g'.selected o) := by
  apply List.rel_filter _ h
  intro r r' hr
  obtain ⟨hid, hcategory⟩ := hR r r' hr
  simp [EvaluationOptions.selects, hid, hcategory]

/-- Of rules with distinct ids only one comes to another outcome. -/
theorem exists_countP_status_eq
    (hids : (rules.map Rule.id).Nodup)
    (h : List.Forall₂ (Rule.SameBut id) rules rules') :
    ∃ before after, ∀ s : Status,
      ((rules'.countP fun r => (r.run f).status = s : Nat) : Int) =
        (rules.countP fun r => (r.run f).status = s : Nat) -
          (if s = before then 1 else 0) + (if s = after then 1 else 0) := by
  induction h with
  | nil => exact ⟨.pass, .pass, fun s => by split <;> simp⟩
  | @cons r r' rest _ hr hrest ih =>
    rw [List.map_cons, List.nodup_cons] at hids
    by_cases hid : r.id = id
    · -- No later rule has the id, so that the rest is the same.
      have hne : ∀ q ∈ rest, q.id ≠ id := fun q hq heq =>
        hids.1 (List.mem_map.mpr ⟨q, hq, heq.trans hid.symm⟩)
      cases eq_of_id_ne hrest hne
      refine ⟨(r.run f).status, (r'.run f).status, fun s => ?_⟩
      rw [List.countP_cons, List.countP_cons]
      simp only [decide_eq_true_eq, eq_comm (a := s)]
      push_cast
      omega
    · cases hr.eq_of_ne hid
      obtain ⟨before, after, hcount⟩ := ih hids.2
      refine ⟨before, after, fun s => ?_⟩
      rw [List.countP_cons, List.countP_cons]
      have := hcount s
      push_cast
      omega

/-- A severity that the policy sets does not bear on the outcome of a rule. -/
theorem map_status_eq
    (h : List.Forall₂ (Rule.SameButSeverity id) rules rules') :
    rules'.map (fun r => (r.run f).status) = rules.map fun r => (r.run f).status := by
  induction h with
  | nil => rfl
  | cons hr _ ih =>
    obtain ⟨severity, rfl⟩ := hr.eq
    rw [List.map_cons, List.map_cons, ih]
    rfl

end Rules

namespace Report

variable {id : String} {rules rules' : List Rule} {f : Facts} {reference : String} {least : Severity}
variable {report report' : Report}

theorem Covers.filter_ruleId_perm
    (h : report.Covers rules f reference least) :
    (report.findings.filter fun x => x.ruleId ≠ id).Perm
      (((rules.filter fun r => r.id ≠ id).filter fun r => r.isReported f least).map
        fun r => r.reportedFinding f reference) := by
  refine (h.findings_perm.filter _).trans (List.Perm.of_eq ?_)
  rw [List.filter_map, List.filter_filter, List.filter_filter]
  congr 1
  exact List.filter_congr fun r _ => Bool.and_comm _ _

/-- Reports that cover rules that differ in one rule agree off that rule. -/
theorem Covers.agreesOff
    (hids : (rules.map Rule.id).Nodup)
    (hrules : List.Forall₂ (Rule.SameBut id) rules rules')
    (h : report.Covers rules f reference least)
    (h' : report'.Covers rules' f reference least) :
    report.AgreesOff id report' where
  findings_eq := by
    have hperm : (report'.findings.filter fun x => x.ruleId ≠ id).Perm
        (report.findings.filter fun x => x.ruleId ≠ id) := by
      refine h'.filter_ruleId_perm.trans ?_
      rw [filter_id_eq hrules]
      exact h.filter_ruleId_perm.symm
    -- Both are in the strict order of reports.
    refine hperm.eq_of_pairwise ?_ (h'.increasing.filter _) (h.increasing.filter _)
    intro x y _ _ hxy hyx
    exact absurd hyx hxy.asymm
  rulesEvaluated_eq := by rw [h.rulesEvaluated_eq, h'.rulesEvaluated_eq, hrules.length_eq]
  outcomeCounts_eq := by
    obtain ⟨before, after, hcount⟩ := exists_countP_status_eq hids hrules (f := f)
    refine ⟨before, after, ?_⟩
    rw [h.outcomeCounts_eq, h'.outcomeCounts_eq, movedOutcome, List.map_map]
    apply List.map_congr_left
    intro s _
    simp only [Function.comp_apply, Status.name_eq_iff, hcount s]

theorem Covers.outcomeCounts_congr
    (hrules : List.Forall₂ (Rule.SameButSeverity id) rules rules')
    (h : report.Covers rules f reference least)
    (h' : report'.Covers rules' f reference least) :
    report'.outcomeCounts = report.outcomeCounts := by
  rw [h.outcomeCounts_eq, h'.outcomeCounts_eq]
  apply List.map_congr_left
  intro s _
  have hcount (rs : List Rule) : (rs.countP fun r => (r.run f).status = s) =
      (rs.map fun r => (r.run f).status).countP fun t => t = s := by
    rw [List.countP_map]
    rfl
  rw [hcount, hcount, map_status_eq hrules]

end Report

variable {g g' : Registry} {id : String} {f : Facts} {o : EvaluationOptions} {s s' : Surroundings}
  {reference : String}

/-- The reports of registries that vary at a rule agree off that rule, and they count all outcomes alike
if the registries vary in nothing but the policy's severity of the rule. There are the reports if no error
leaves a run. Neither registry has a report where rules are to run side by side and no worker may take one
up. -/
theorem evaluate_agreesOff
    (hvaries : g.VariesAt id g')
    (href : f.reference? = some reference)
    (htime : o.timeLimit = none)
    (hcancel : o.Undisturbed s f (g.selected o))
    (hcancel' : o.Undisturbed s' f (g'.selected o))
    (hevents : o.parallel = true → 1 < (g.selected o).length →
      o.lacksWorkers (g.selected o).length = false → o.schedules s (g.selected o).length = true)
    (hevents' : o.parallel = true → 1 < (g'.selected o).length →
      o.lacksWorkers (g'.selected o).length = false → o.schedules s' (g'.selected o).length = true) :
    if o.lacksWorkers (g.selected o).length then
      evaluate g f o s = .error .noWorkers ∧ evaluate g' f o s' = .error .noWorkers
    else
      (∀ r ∈ g.selected o, (r.attempt f).escape? = none) →
        (∀ r ∈ g'.selected o, (r.attempt f).escape? = none) →
        ∃ report report', evaluate g f o s = .ok report ∧ evaluate g' f o s' = .ok report' ∧
          report.AgreesOff id report' ∧
          (g.VariesInSeverityAt id g' → report'.outcomeCounts = report.outcomeCounts) := by
  have hrules : List.Forall₂ (Rule.SameBut id) (g.selected o) (g'.selected o) :=
    forall₂_selected (fun _ _ h => ⟨h.id_eq, h.category_eq⟩) hvaries.forall₂
  have hlength : (g'.selected o).length = (g.selected o).length := hrules.length_eq.symm
  split
  · rename_i hworkers
    constructor
    · rw [evaluate_eq href, Evaluation.judgements_eq_noWorkers hworkers]
      rfl
    · rw [evaluate_eq href, Evaluation.judgements_eq_noWorkers (by rw [hlength, hworkers])]
      rfl
  · rename_i hworkers
    have hworkers : o.lacksWorkers (g.selected o).length = false := by simpa using hworkers
    have hworkers' : o.lacksWorkers (g'.selected o).length = false := by rw [hlength, hworkers]
    intro hescape hescape'
    have hok := evaluate_eq_ok href hcancel htime hworkers
      (fun hparallel hmany => hevents hparallel hmany hworkers)
      (Evaluation.escape?_eq_none_iff.mpr hescape)
    have hok' := evaluate_eq_ok href hcancel' htime hworkers'
      (fun hparallel hmany => hevents' hparallel hmany hworkers')
      (Evaluation.escape?_eq_none_iff.mpr hescape')
    have hcovers : Report.Covers _ (g.selected o) f reference o.minSeverity :=
      Evaluation.report_covers (g.nodup_ids_selected o)
    have hcovers' : Report.Covers _ (g'.selected o) f reference o.minSeverity :=
      Evaluation.report_covers (g'.nodup_ids_selected o)
    refine ⟨_, _, hok, hok', hcovers.agreesOff (g.nodup_ids_selected o) hrules hcovers', ?_⟩
    intro hseverity
    refine hcovers.outcomeCounts_congr (forall₂_selected ?_ hseverity.forall₂) hcovers'
    exact fun _ _ h => ⟨h.sameBut.id_eq, h.sameBut.category_eq⟩

/-- The rules to try with a policy that disables the one that breaks down. -/
def mendedRegistry : Registry where
  rules := trialRules.map fun r =>
    if r.id = "ORD-9" then { r with config := { r.config with enabled := false } } else r
  nodup_ids := by decide

/-- The rules to try with a policy that sets the severity of the one that breaks down. -/
def sharpenedRegistry : Registry where
  rules := trialRules.map fun r =>
    if r.id = "ORD-9" then r.withPolicySeverity (some .critical) else r
  nodup_ids := by decide

/-- Disabling the rule that breaks down, or giving it another severity, touches none of the others. -/
theorem evaluate_agreesOff_trialRules :
    (∃ report report',
      evaluate trialRegistry trialFacts trialOptions trialSurroundings = .ok report ∧
        evaluate mendedRegistry trialFacts trialOptions trialSurroundings = .ok report' ∧
          report.AgreesOff "ORD-9" report') ∧
      ∃ report report',
        evaluate trialRegistry trialFacts trialOptions trialSurroundings = .ok report ∧
          evaluate sharpenedRegistry trialFacts trialOptions trialSurroundings = .ok report' ∧
            report.AgreesOff "ORD-9" report' ∧ report'.outcomeCounts = report.outcomeCounts := by
  obtain ⟨reference, href⟩ := trialFacts_reference
  have hmended : trialRegistry.VariesAt "ORD-9" mendedRegistry := by
    refine .rules (List.forall₂_map_right_iff.mpr (List.forall₂_same.mpr fun r _ => ?_))
    split
    · exact ⟨rfl, rfl, fun hne => absurd ‹_› hne⟩
    · exact r.sameBut_refl
  have hsharpened : trialRegistry.VariesInSeverityAt "ORD-9" sharpenedRegistry := by
    refine .rules (List.forall₂_map_right_iff.mpr (List.forall₂_same.mpr fun r _ => ?_))
    split
    · exact ⟨⟨_, rfl⟩, fun hne => absurd ‹_› hne⟩
    · exact r.sameButSeverity_refl
  constructor
  · obtain ⟨report, report', hok, hok', hagrees, -⟩ :=
      evaluate_agreesOff (o := trialOptions) (s := trialSurroundings) hmended
        href rfl (.inl rfl) (.inl rfl) (fun _ _ _ => trialEvents_schedules)
        (fun _ _ _ => trialEvents_schedules) (by decide) (by decide)
    exact ⟨report, report', hok, hok', hagrees⟩
  · obtain ⟨report, report', hok, hok', hagrees, hcounts⟩ :=
      evaluate_agreesOff (o := trialOptions) (s := trialSurroundings)
        hsharpened.variesAt href rfl (.inl rfl) (.inl rfl) (fun _ _ _ => trialEvents_schedules)
        (fun _ _ _ => trialEvents_schedules) (by decide) (by decide)
    exact ⟨report, report', hok, hok', hagrees, hcounts hsharpened⟩

/-- The rules to try, of which the one that breaks down does so with an error that cannot be worded. -/
def wordlessRegistry : Registry where
  rules := trialRules.map fun r =>
    if r.id = "ORD-9" then
      { r with check := fun _ => .faults (.wordless ⟨"ValueError", Text.tooManyDigitsMessage⟩) }
    else r
  nodup_ids := by decide

/-- An error that leaves the run of one rule leaves the evaluation: no finding of any other rule is
reported, as they are where the rule breaks down with an error that can be worded. Where no worker may
take up a rule, there is no report at all. -/
theorem evaluate_wordlessRegistry :
    trialRegistry.VariesAt "ORD-9" wordlessRegistry ∧
      (∃ report, evaluate trialRegistry trialFacts = .ok report ∧
        ∃ x ∈ report.findings, x.ruleId = "SEQ-2") ∧
      (¬ ∃ report', evaluate wordlessRegistry trialFacts = .ok report') ∧
      ¬ ∃ report,
        evaluate trialRegistry trialFacts { parallel := true, maxWorkers := some 0 } = .ok report := by
  obtain ⟨reference, href⟩ := trialFacts_reference
  have hcovers : Report.Covers _ (trialRegistry.selected {}) trialFacts reference .info :=
    Evaluation.report_covers (o := {}) (trialRegistry.nodup_ids_selected {})
  have hmember : trialRules[2] ∈ (trialRegistry.selected {}).filter fun r =>
      r.isReported trialFacts .info :=
    List.mem_filter.mpr ⟨List.mem_of_getElem? (i := 2) rfl, rfl⟩
  refine ⟨?_, ⟨_, evaluate_eq_ok href (.inl rfl) rfl rfl (fun h => by cases h) (by decide), ?_⟩, ?_, ?_⟩
  · refine .rules (List.forall₂_map_right_iff.mpr (List.forall₂_same.mpr fun r _ => ?_))
    split
    · exact ⟨rfl, rfl, fun hne => absurd ‹_› hne⟩
    · exact r.sameBut_refl
  · exact ⟨_, hcovers.findings_perm.mem_iff.mpr (List.mem_map_of_mem hmember), rfl⟩
  · rintro ⟨report, hreport⟩
    rw [evaluate_eq href] at hreport
    cases hreport
  · rintro ⟨report, hreport⟩
    rw [evaluate_eq href, Evaluation.judgements_eq_noWorkers (by decide)] at hreport
    cases hreport

end RollupAudit
