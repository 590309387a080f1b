import RollupAudit.Proofs.Evaluation.Sharding
import RollupAudit.Proofs.Rule.PolicyEntries

/-!
# Policies in evaluations

A policy disables a rule or sets its severity by an entry for the id of the rule. In every report of a
registry that was built under the policy a disabled rule has no finding and counts as not applicable,
and the findings of a rule have the severity that is set, whatever the facts. This holds of the rules
that the registry makes of kinds. A policy may have entries for further rules too, which come with
configurations of their own: nothing of these entries reaches a report, and nothing in them is refused.

**Results.**
* `Report.Covers.heeds`: a report heeds an entry that one of its rules carries.
* `evaluate_heeds_policy`: evaluations heed the entries for the rules of kinds.
* `evaluate_overlooks_entry`: they do not heed entries for further rules.
-/

namespace RollupAudit

variable {entry : List (String × Value)} {r : Rule}

/-- That a report of rules on facts heeds an entry of a policy for a rule. -/
structure Report.Heeds (report : Report) (entry : List (String × Value)) (r : Rule) (rules : List Rule)
    (f : Facts) : Prop where
  /-- A disabled rule has no finding. -/
  no_finding : Policy.Disables entry → ∀ x ∈ report.findings, x.ruleId ≠ r.id
  /-- A disabled rule counts as not applicable beside the other rules. -/
  countOf_eq : Policy.Disables entry → r ∈ rules → ∀ s, report.countOf s =
    ((rules.filter fun q => q.id ≠ r.id).countP fun q => (q.run f).status = s : Nat) +
      if s = .notApplicable then 1 else 0
  severity_eq : ∀ severity, Policy.SetsSeverity entry severity →
    ∀ x ∈ report.findings, x.ruleId = r.id → x.severity = severity

/-- That the evaluations of a registry heed an entry of a policy for one of its rules. -/
structure Registry.Heeds (g : Registry) (entry : List (String × Value)) (r : Rule) : Prop where
  carries : r.Carries entry
  run_eq : Policy.Disables entry → ∀ f, r.run f = Rule.disabledOutcome
  evaluates : ∀ {f o s reference}, f.reference? = some reference → o.Unhindered g f s →
    o.lacksWorkers (g.selected o).length = false →
    (∀ r ∈ g.selected o, (r.attempt f).escape? = none) → ∃ report, evaluate g f o s = .ok report
  heeds : ∀ {f o s report}, evaluate g f o s = .ok report → report.Heeds entry r (g.selected o) f

/-- Rules count apart from the one with an id and together with it. -/
theorem countP_eq_countP_filter_add
    {rules : List Rule}
    (hids : (rules.map Rule.id).Nodup)
    (hr : r ∈ rules)
    (p : Rule → Bool) :
    rules.countP p = (rules.filter fun q => q.id ≠ r.id).countP p + if p r then 1 else 0 := by
  induction rules with
  | nil => cases hr
  | cons q rules ih =>
    rw [List.map_cons, List.nodup_cons] at hids
    rcases List.mem_cons.mp hr with rfl | hr
    · have hothers : (rules.filter fun q => q.id ≠ r.id) = rules := by
        refine List.filter_eq_self.mpr fun q hq => decide_eq_true fun hid => ?_
        exact hids.1 (List.mem_map.mpr ⟨q, hq, hid⟩)
      rw [List.countP_cons, List.filter_cons_of_neg (by simp), hothers]
    · have hne : q.id ≠ r.id := fun hid => hids.1 (List.mem_map.mpr ⟨r, hr, hid.symm⟩)
      rw [List.countP_cons, List.filter_cons_of_pos (by simpa using hne), List.countP_cons, ih hids.2 hr]
      omega

/-- A report heeds an entry that the rule with the id carries. -/
theorem Report.Covers.heeds
    {report : Report} {rules : List Rule} {f : Facts} {reference : String} {least : Severity}
    (h : report.Covers rules f reference least)
    (hids : (rules.map Rule.id).Nodup)
    (honly : ∀ q ∈ rules, q.id = r.id → q = r)
    (hcarries : r.Carries entry) :
    report.Heeds entry r rules f := by
  -- A finding with the id of the rule is what the rule reports.
  have hfinding : ∀ x ∈ report.findings, x.ruleId = r.id →
      r.isReported f least = true ∧ x = r.reportedFinding f reference := by
    intro x hx hid
    obtain ⟨q, hq, rfl⟩ := List.mem_map.mp (h.findings_perm.mem_iff.mp hx)
    obtain ⟨hq, hreported⟩ := List.mem_filter.mp hq
    cases honly q hq hid
    exact ⟨hreported, rfl⟩
  refine ⟨fun hdisables x hx hid => ?_, fun hdisables hr s => ?_, fun severity hsets x hx hid => ?_⟩
  · have hreported := (hfinding x hx hid).1
    have hrun := Rule.run_of_enabled_eq_false (hcarries.enabled_eq_false hdisables) f
    unfold Rule.isReported at hreported
    rw [hrun] at hreported
    cases hreported
  · have hrun := Rule.run_of_enabled_eq_false (hcarries.enabled_eq_false hdisables) f
    rw [Report.countOf_eq h.outcomeCounts_eq, countP_eq_countP_filter_add hids hr, hrun]
    cases s <;> simp [Rule.disabledOutcome, Outcome.notApplicable]
  · rw [(hfinding x hx hid).2]
    exact Rule.severityFor_of_severity_eq (hcarries.severity_eq hsets) _

/-- Evaluations of a registry heed an entry that the rule with an id carries. -/
theorem Registry.heeds_of_carries
    {g : Registry}
    (hr : r ∈ g.rules)
    (hcarries : r.Carries entry) :
    g.Heeds entry r := by
  refine ⟨hcarries, fun hdisables => ?_, fun href hrun hworkers hescape => ?_,
    fun {f o s report} h => ?_⟩
  · exact Rule.run_of_enabled_eq_false (hcarries.enabled_eq_false hdisables)
  · exact ⟨_, (evaluate_of_unhindered_eq_ok_iff href hrun).mpr
      ⟨hworkers, Evaluation.escape?_eq_none_iff.mpr hescape, rfl⟩⟩
  · obtain ⟨-, reference, -, rfl⟩ := evaluate_eq_ok_cases h
    refine (Evaluation.report_covers (g.nodup_ids_selected o)).heeds (g.nodup_ids_selected o) ?_ hcarries
    intro q hq hid
    exact List.inj_on_of_nodup_map g.nodup_ids (mem_selected_iff.mp hq).1 hr hid

section Build

variable {policy : Policy} {kinds : List RuleKind} {extra : List Rule} {g : Registry}

/-- What a policy has entries for is registered. The rule of a kind carries its entry, and all evaluations
heed it; a further rule is registered as it came. Under another policy with an entry for a kind that
cannot be read there is no registry, but the error of such an entry or of ids that are unknown. -/
theorem evaluate_heeds_policy
    (h : Registry.build policy kinds extra = .ok g) :
    (∀ id entry, policy.ruleEntry id = some entry →
      ∃ r, g.get? id = some r ∧
        if id ∈ kinds.map RuleKind.id then g.Heeds entry r else r ∈ extra) ∧
    ∀ (policy' : Policy) (k : RuleKind) (entry : List (String × Value)),
      k ∈ kinds → policy'.ruleEntry k.id = some entry →
      (∀ c, (RuleConfig.ofEntries k.model (Policy.toEntries entry) :
        Checked Empty (RuleConfig k.model)) ≠ .accepted c) →
      ∃ e, Registry.build policy' kinds extra = .error (.badPolicy e) ∧
        ((∃ unknown, e = .unknownRules unknown) ∨
          ∃ k ∈ kinds, policy'.config k.id k.model = .error e) := by
  constructor
  · intro id entry hentry
    by_cases hid : id ∈ kinds.map RuleKind.id
    · obtain ⟨r, hr, hcarries⟩ := Registry.get?_of_build h hentry hid
      have hmem := (Registry.get?_eq_some_iff.mp hr).1
      exact ⟨r, hr, by rw [if_pos hid]; exact Registry.heeds_of_carries hmem hcarries⟩
    · obtain ⟨r, hextra, hr⟩ := Registry.get?_of_build_extra h hentry hid
      exact ⟨r, hr, by rwa [if_neg hid]⟩
  · intro policy' k entry hk hentry hrejected
    rcases Registry.build_eq_ok_or_badPolicy h policy' with ⟨g', hg'⟩ | hbad
    · obtain ⟨r, -, c, hc, -⟩ := Registry.exists_rule_of_mem_kinds hg' hk
      exact absurd ((Policy.config_eq_ok_iff_of_entry hentry).mp hc) (hrejected c)
    · exact hbad

/-- A kind of rules that fail with a severity of their own. -/
def tardyKind : RuleKind where
  id := "UPG-1"
  title := "Upgrades"
  category := some .upgrade
  check := fun _ _ => .gives (.fail "late" (some .low))
  moduleName := "upgrades"
  className := "Upgrades"

/-- A rule that fails, supplied beside the kinds. -/
def strayRule : Rule where
  id := "SEQ-1"
  title := "SEQ-1"
  category := .sequencer
  check := fun _ => .gives (.fail "stray")

/-- A disabled rule of a kind beside a further rule has no finding in any report, and an entry for it with
a name that is no field is refused. -/
theorem evaluate_heeds_policy_tardyKind :
    let policy : Policy := { rules := [("UPG-1", [("enabled", .bool false)])] }
    let misspelt : Policy := { rules := [("UPG-1", [("notice_days", .int 3)])] }
    ∃ g, Registry.build policy [tardyKind] [strayRule] = .ok g ∧
      (∃ report, evaluate g trialFacts = .ok report) ∧
      (∀ f o s report, evaluate g f o s = .ok report → ∀ x ∈ report.findings, x.ruleId ≠ "UPG-1") ∧
      ∃ e, Registry.build misspelt [tardyKind] [strayRule] = .error (.badPolicy e) := by
  intro policy misspelt
  have hbuilt : (Registry.build policy [tardyKind] [strayRule]).toOption.isSome = true := by
    decide +kernel
  cases hbuild : Registry.build policy [tardyKind] [strayRule] with
  | error e =>
    rw [hbuild] at hbuilt
    cases hbuilt
  | ok g =>
    obtain ⟨hentries, hrejects⟩ := evaluate_heeds_policy hbuild
    obtain ⟨r, hr, hheeds⟩ := hentries "UPG-1" _ rfl
    rw [if_pos (by decide)] at hheeds
    have hdisables : Policy.Disables [("enabled", .bool false)] := ⟨_, rfl, rfl⟩
    obtain ⟨reference, href⟩ := trialFacts_reference
    refine ⟨g, rfl, ?_, fun f o s report hreport x hx => ?_, ?_⟩
    · have hescape : ((Registry.build policy [tardyKind] [strayRule]).toOption.all fun g =>
          g.rules.all fun r => (r.attempt trialFacts).escape?.isNone) = true := by
        decide +kernel
      rw [hbuild] at hescape
      have hescape : ∀ r ∈ g.rules, (r.attempt trialFacts).escape? = none := by
        simpa [Except.toOption] using hescape
      exact hheeds.evaluates href (o := {}) ⟨.inl rfl, rfl, fun hpool => by cases hpool⟩ rfl fun r hr =>
        hescape r (List.mem_of_mem_filter hr)
    · rw [← (Registry.get?_eq_some_iff.mp hr).2]
      exact (hheeds.heeds hreport).no_finding hdisables x hx
    · obtain ⟨e, he, -⟩ := hrejects misspelt tardyKind _ List.mem_cons_self rfl fun c hc => by cases hc
      exact ⟨e, he⟩

/-- The registry of the further rule alone. -/
def strayRegistry : Registry where
  rules := [strayRule]
  nodup_ids := by simp

theorem build_strayRule
    (entry : List (String × Value)) :
    Registry.build { rules := [("SEQ-1", entry)] } [] [strayRule] = .ok strayRegistry := by
  refine (Registry.build_of_known fun id hid => ?_).trans rfl
  exact hid

/-- A further rule that the policy disables has a finding and does not count as not applicable, one whose
severity the policy sets keeps its own, and an entry for it with a name that is no field is accepted. -/
theorem evaluate_overlooks_entry :
    ∃ report, evaluate strayRegistry trialFacts = .ok report ∧
      (∃ x ∈ report.findings, x.ruleId = "SEQ-1" ∧ x.severity = .medium) ∧
      report.countOf .notApplicable = 0 ∧
      Policy.Disables [("enabled", .bool false)] ∧
      Policy.SetsSeverity [("severity", .text "critical")] .critical ∧
      ∀ entry ∈ [[("enabled", .bool false)], [("severity", .text "critical")], [("notice_days", .int 3)]],
        Registry.build { rules := [("SEQ-1", entry)] } [] [strayRule] = .ok strayRegistry := by
  obtain ⟨reference, href⟩ := trialFacts_reference
  have hcovers : Report.Covers _ (strayRegistry.selected {}) trialFacts reference .info :=
    Evaluation.report_covers (o := {}) (strayRegistry.nodup_ids_selected {})
  refine ⟨_, evaluate_eq href, ⟨strayRule.reportedFinding trialFacts reference, ?_, rfl, rfl⟩, ?_,
    ⟨_, rfl, rfl⟩, ⟨_, rfl, rfl⟩, fun entry _ => build_strayRule entry⟩
  · exact hcovers.findings_perm.mem_iff.mpr List.mem_cons_self
  · exact (Report.countOf_eq hcovers.outcomeCounts_eq .notApplicable).trans rfl

end Build
end RollupAudit
