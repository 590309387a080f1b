import RollupAudit.Proofs.Evaluation.Cancellation
import RollupAudit.Proofs.Evaluation.Isolation
import RollupAudit.Proofs.Evaluation.SharedText
import RollupAudit.Proofs.Facts.Overrides
import RollupAudit.Proofs.Rule.Reads

/-!
# Locality of overrides

An override of a section or of a parameter leaves the other sections and parameters and the time of
observation as they are. As rules read nothing else, it reaches the findings of rules about that section
or parameter only. All other findings are the same, in the same order, but for the reference to the
snapshot.

**Results.**
* `Facts.agreesOn_of_override`: what an override leaves as it is.
* `Report.Covers.findingsBut_eq`: the findings that it does not reach.
* `Registry.rules_are_local`: rules read their own facts and differences of time.
-/

namespace RollupAudit

namespace Topic

/-- The path at which a snapshot has a topic. -/
def path : Topic → List String
  | sequencer => ["sequencer"]
  | proposer => ["proposer"]
  | upgrade => ["upgrade"]
  | withdrawal => ["withdrawal"]
  | anchor => ["anchor"]
  | oracle => ["oracle"]
  | parameter name => ["parameters", name]

/-- The path of a topic does not lead to another. -/
theorem eq_of_path_prefix
    {t t' : Topic}
    (h : t.path <+: t'.path) :
    t = t' := by
  cases t <;> cases t' <;> simp_all [path]

end Topic

/-- The rules that are about a topic under a policy. -/
def Policy.idsAbout (p : Policy) (t : Topic) : List String :=
  Builtin.all.filterMap fun b =>
    match p.config b.id b.model with
    | .ok c => if t ∈ b.topics c.values then some b.id else none
    | .error _ => none

theorem Policy.mem_idsAbout_iff
    {p : Policy} {t : Topic} {id : String} :
    id ∈ p.idsAbout t ↔
      ∃ (b : Builtin) (c : RuleConfig b.model), p.config b.id b.model = .ok c ∧ t ∈ b.topics c.values ∧
        b.id = id := by
  unfold idsAbout
  rw [List.mem_filterMap]
  constructor
  · rintro ⟨b, -, hb⟩
    split at hb
    · rename_i c hc
      obtain ⟨ht, hid⟩ := Option.ite_none_right_eq_some.mp hb
      exact ⟨b, c, hc, ht, Option.some.inj hid⟩
    · cases hb
  · rintro ⟨b, c, hc, ht, rfl⟩
    refine ⟨b, b.mem_all, ?_⟩
    rw [hc]
    exact if_pos ht

example : Policy.idsAbout {} .upgrade =
    ["upgrade.exitWindow", "upgrade.exitWindowCoversWithdrawal", "upgrade.pendingActivation",
      "access.adminMultisig"] := by
  decide +kernel

namespace Facts

open Fields Value Reading

variable {f g : Facts} {key : String} {v : Value} {t t' : Topic}

theorem field?_congr_of_override
    (hf : f.IsReachable)
    (h : f.override key v = .ok g)
    (ht : t.path <+: pathParts key)
    {p : List String}
    (hp : ¬ t.path <+: p)
    (hp' : ¬ p <+: t.path) :
    g.field? p = f.field? p := by
  refine field?_override hf.ofValue_toValue h ?_ ?_
  · intro hkey
    rcases List.prefix_or_prefix_of_prefix hkey ht with hle | hle
    · exact hp' hle
    · exact hp hle
  · exact fun hkey => hp (ht.trans hkey)

theorem givesFacts_toEntries
    (hf : f.IsReachable) :
    GivesFacts f.toEntries f := by
  obtain ⟨_, hes, -, hgives⟩ := ofValue_eq_ok_iff.mp hf.ofValue_toValue
  cases hes
  exact hgives

/-- A field of which two snapshots have the same is the same in both. -/
theorem eq_of_field
    {α : Type} {read : Value → Check α} {name : String} {a b : Option α}
    (h : lookup? name g.toEntries = lookup? name f.toEntries)
    (hf : field f.toEntries name read = .accepted a)
    (hg : field g.toEntries name read = .accepted b) :
    b = a := by
  unfold field Fields.optional at hf hg
  rw [h, hf] at hg
  cases hg
  rfl

theorem eq_of_required
    {α : Type} {read : Value → Check α} {name : String} {a b : α}
    (h : lookup? name g.toEntries = lookup? name f.toEntries)
    (hf : required f.toEntries name read = .accepted a)
    (hg : required g.toEntries name read = .accepted b) :
    b = a := by
  unfold required at hf hg
  rw [h, hf] at hg
  cases hg
  rfl

theorem field?_parameter (f : Facts) (name : String) :
    f.field? ["parameters", name] = (f.parameter? name).map Parameter.toValue :=
  Parameter.lookup?_toEntries

/-- An override leaves the time of observation as it is, and all sections and parameters but one. -/
theorem agreesOn_of_override
    (hf : f.IsReachable)
    (h : f.override key v = .ok g)
    (ht : t.path <+: pathParts key) :
    g.observedAt = f.observedAt ∧ ∀ t', t' ≠ t → f.AgreesOn g t' := by
  have hgives := givesFacts_toEntries hf
  have hgives' := givesFacts_toEntries (hf.override h)
  constructor
  · have hfield : g.field? ["observed_at"] = f.field? ["observed_at"] := by
      refine field?_congr_of_override hf h ht ?_ ?_ <;> cases t <;> simp [Topic.path]
    exact eq_of_required hfield hgives.observedAt hgives'.observedAt
  · intro t' hne
    have hfield : g.field? t'.path = f.field? t'.path :=
      field?_congr_of_override hf h ht (fun hle => hne (Topic.eq_of_path_prefix hle).symm)
        fun hle => hne (Topic.eq_of_path_prefix hle)
    cases t' with
    | sequencer => exact eq_of_field hfield hgives.sequencer hgives'.sequencer
    | proposer => exact eq_of_field hfield hgives.proposer hgives'.proposer
    | upgrade => exact eq_of_field hfield hgives.upgrade hgives'.upgrade
    | withdrawal => exact eq_of_field hfield hgives.withdrawal hgives'.withdrawal
    | anchor => exact eq_of_field hfield hgives.anchor hgives'.anchor
    | oracle => exact eq_of_field hfield hgives.oracle hgives'.oracle
    | parameter name =>
      rw [Topic.path, field?_parameter, field?_parameter] at hfield
      exact Option.map_injective Parameter.toValue_injective hfield

end Facts

namespace Registry

variable {policy : Policy} {rs : Registry} {f g : Facts} {key : String} {v : Value} {t : Topic}

/-- A rule that is not about what an override changes has the outcome that it had. -/
theorem run_of_override
    (hbuild : build policy = .ok rs)
    (hf : f.IsReachable)
    (h : f.override key v = .ok g)
    (ht : t.path <+: pathParts key)
    {r : Rule}
    (hr : r ∈ rs.rules)
    (hid : r.id ∉ policy.idsAbout t) :
    r.run g = r.run f := by
  obtain ⟨b, c, hc, rfl⟩ := exists_builtin_of_mem hbuild hr
  obtain ⟨hnow, hothers⟩ := Facts.agreesOn_of_override hf h ht
  refine Builtin.run_rule_of_agreesOn (fun t' ht' => hothers t' ?_) fun _ => hnow
  rintro rfl
  exact hid (Policy.mem_idsAbout_iff.mpr ⟨b, c, hc, ht', rfl⟩)

end Registry

/-- A finding without the reference to the snapshot. -/
def Finding.withoutReference (x : Finding) : Finding := { x with reference := "" }

/-- The findings of a report that are of no rules with certain ids, without their references. -/
def Report.findingsBut (report : Report) (ids : List String) : List Finding :=
  (report.findings.filter fun x => x.ruleId ∉ ids).map Finding.withoutReference

namespace Report

variable {report report' : Report} {rules : List Rule} {f g : Facts} {reference reference' : String}
  {least : Severity} {ids : List String}

theorem Covers.findingsBut_perm
    (h : report.Covers rules f reference least) :
    (report.findingsBut ids).Perm
      (((rules.filter fun r => r.id ∉ ids).filter fun r => r.isReported f least).map
        fun r => (r.reportedFinding f reference).withoutReference) := by
  refine ((h.findings_perm.filter _).map _).trans (List.Perm.of_eq ?_)
  rw [List.filter_map, List.filter_filter, List.map_map, List.filter_filter]
  congr 1
  exact List.filter_congr fun r _ => Bool.and_comm _ _

theorem Covers.pairwise_findingsBut
    (h : report.Covers rules f reference least) :
    (report.findingsBut ids).Pairwise Finding.PrecedesByRule :=
  List.pairwise_map.mpr (h.increasing.filter _)

/-- Reports that cover the same rules on two snapshots have the same findings of the rules whose outcomes
are the same, but for their references. -/
theorem Covers.findingsBut_eq
    (h : report.Covers rules f reference least)
    (h' : report'.Covers rules g reference' least)
    (hrun : ∀ r ∈ rules, r.id ∉ ids → r.run g = r.run f) :
    report'.findingsBut ids = report.findingsBut ids := by
  have hkept : ∀ r ∈ rules.filter (fun r => r.id ∉ ids), r.run g = r.run f := by
    intro r hr
    obtain ⟨hmem, hid⟩ := List.mem_filter.mp hr
    exact hrun r hmem (of_decide_eq_true hid)
  have hreported : (rules.filter fun r => r.id ∉ ids).filter (fun r => r.isReported g least) =
      (rules.filter fun r => r.id ∉ ids).filter fun r => r.isReported f least := by
    refine List.filter_congr fun r hr => ?_
    rw [Rule.isReported, Rule.isReported, hkept r hr]
  have hperm : (report'.findingsBut ids).Perm (report.findingsBut ids) := by
    refine h'.findingsBut_perm.trans (List.Perm.trans (List.Perm.of_eq ?_) h.findingsBut_perm.symm)
    rw [hreported]
    refine List.map_congr_left fun r hr => ?_
    simp only [Rule.reportedFinding, Rule.verdictOn, Finding.withoutReference,
      hkept r (List.mem_of_mem_filter hr)]
  refine hperm.eq_of_pairwise ?_ h'.pairwise_findingsBut h.pairwise_findingsBut
  intro x y _ _ hxy hyx
  exact absurd hyx hxy.asymm

end Report

namespace Registry

variable {policy : Policy} {rs : Registry}

/-- Under a policy that is accepted, a rule has one outcome on snapshots that agree on what it is about,
and on the time of observation if it is about time, and no outcome changes if all instants move by the
same time. So an override of a section or a parameter changes the outcomes and the findings of the rules
about it only, but for the references of findings. -/
theorem rules_are_local
    (hbuild : build policy = .ok rs) :
    (∀ (b : Builtin) (c : RuleConfig b.model), policy.config b.id b.model = .ok c → ∀ f g : Facts,
      (∀ t ∈ b.topics c.values, f.AgreesOn g t) → (b.isTimed = true → g.observedAt = f.observedAt) →
        (b.rule c).run g = (b.rule c).run f) ∧
      (∀ (f g : Facts) (delta : Int), f.IsShift delta g → ∀ r ∈ rs.rules, r.run g = r.run f) ∧
      ∀ (f g : Facts) (key : String) (v : Value) (t : Topic), f.IsReachable →
        f.override key v = .ok g → t.path <+: pathParts key →
          (∀ r ∈ rs.rules, r.id ∉ policy.idsAbout t → r.run g = r.run f) ∧
            ∀ (o : EvaluationOptions) (s s' : Surroundings) (report report' : Report),
              evaluate rs f o s = .ok report → evaluate rs g o s' = .ok report' →
                report'.findingsBut (policy.idsAbout t) = report.findingsBut (policy.idsAbout t) := by
  refine ⟨fun b c _ f g hagrees hnow => Builtin.run_rule_of_agreesOn hagrees hnow, ?_, ?_⟩
  · intro f g delta hshift r hr
    obtain ⟨b, c, -, rfl⟩ := exists_builtin_of_mem hbuild hr
    exact Builtin.run_rule_of_isShift hshift b c
  · intro f g key v t hf h ht
    have hrun : ∀ r ∈ rs.rules, r.id ∉ policy.idsAbout t → r.run g = r.run f :=
      fun r hr hid => run_of_override hbuild hf h ht hr hid
    refine ⟨hrun, ?_⟩
    intro o s s' report report' hreport hreport'
    obtain ⟨-, reference, -, rfl⟩ := evaluate_eq_ok_cases hreport
    obtain ⟨-, reference', -, rfl⟩ := evaluate_eq_ok_cases hreport'
    have hcovers : Report.Covers _ (rs.selected o) f reference o.minSeverity :=
      Evaluation.report_covers (rs.nodup_ids_selected o)
    have hcovers' : Report.Covers _ (rs.selected o) g reference' o.minSeverity :=
      Evaluation.report_covers (rs.nodup_ids_selected o)
    exact hcovers.findingsBut_eq hcovers' fun r hr => hrun r (List.mem_of_mem_filter hr)

end Registry

/-- A chain with a root that was anchored at an instant, which is observed at another. -/
def Facts.anchoredChain (anchored observed : Instant) : Facts :=
  { bareChain with
    observedAt := observed
    anchor := some { timestamp := anchored } }

theorem Facts.isShift_anchoredChain
    {delta : Int} {anchored anchored' observed observed' : Instant}
    (hanchored : anchored.IsLaterBy delta anchored')
    (hobserved : observed.IsLaterBy delta observed') :
    (anchoredChain anchored observed).IsShift delta (anchoredChain anchored' observed') where
  version_eq := rfl
  chainId_eq := rfl
  observedAt := hobserved
  topics t := by
    cases t with
    | anchor => exact .some ⟨_, rfl, hanchored⟩
    | sequencer => exact .none
    | proposer => exact .none
    | upgrade => exact .none
    | oracle => exact .none
    | withdrawal => rfl
    | parameter => rfl

theorem Facts.exists_evaluate_of_isWritable
    {f : Facts}
    {policy : Policy} {rs : Registry}
    (hbuild : Registry.build policy = .ok rs)
    (h : f.toJson.isWritable = true) :
    ∃ report, evaluate rs f = .ok report := by
  have href : f.reference? = some (referenceOf (f.toJson.write .compact)) := by
    simp [reference?, canonicalText?, Json.write?, h]
  exact ⟨_, evaluate_eq_ok href (.inl rfl) rfl rfl (fun h => by cases h)
    (Registry.escape?_of_build hbuild f {})⟩

/-- Without a policy, forcing transactions in leaves the findings of all rules but those about the
sequencer, and a root and its observation that are a microsecond later are judged alike. -/
theorem Registry.rules_are_local_forcedChain :
    ∃ rs report report', build {} = .ok rs ∧
      evaluate rs Facts.bareChain = .ok report ∧ evaluate rs Facts.forcedChain = .ok report' ∧
      report'.findingsBut (Policy.idsAbout {} .sequencer) =
        report.findingsBut (Policy.idsAbout {} .sequencer) ∧
      ∀ r ∈ rs.rules,
        r.run (Facts.anchoredChain ⟨1, by decide⟩ ⟨90000000001, by decide⟩) =
          r.run (Facts.anchoredChain ⟨0, by decide⟩ ⟨90000000000, by decide⟩) := by
  obtain ⟨rs, hbuild⟩ := exists_build_default
  obtain ⟨report, hreport⟩ := Facts.exists_evaluate_of_isWritable (f := Facts.bareChain) hbuild
    (by decide +kernel)
  obtain ⟨report', hreport'⟩ := Facts.exists_evaluate_of_isWritable (f := Facts.forcedChain) hbuild
    (by decide +kernel)
  obtain ⟨-, hshift, hoverride⟩ := rules_are_local hbuild
  obtain ⟨-, hfindings⟩ := hoverride _ _ _ _ .sequencer Facts.isReachable_bareChain
    Facts.override_bareChain (by decide)
  exact ⟨rs, report, report', hbuild, hreport, hreport', hfindings {} {} {} _ _ hreport hreport',
    hshift _ _ 1 (Facts.isShift_anchoredChain rfl rfl)⟩

end RollupAudit
