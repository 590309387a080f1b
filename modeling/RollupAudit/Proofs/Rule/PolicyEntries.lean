import Mathlib.Data.List.Nodup
import RollupAudit.Proofs.Rule.Variation

/-!
# Entries of a policy

The rules that a registry makes of kinds carry what the policy sets for them. The entry of each kind is
read when the registry is built, and an entry that cannot be read keeps the registry from being built.
The further rules come with configurations of their own: their ids are known, so that a policy may have
entries for them, but these entries are not read.

**Results.**
* `Registry.get?_eq_some_iff`: the rule with an id is the only one.
* `Registry.get?_of_build`, `Registry.get?_of_build_extra`: the rule that a policy has an entry for.
* `Registry.build_eq_ok_or_badPolicy`: kinds and rules that make a registry under one policy make one
  under any other, unless that policy has an entry for an unknown rule or one that cannot be read.
-/

namespace RollupAudit

open Fields

namespace Policy

variable {entry : List (String × Value)}

/-- That an entry disables its rule. -/
def Disables (entry : List (String × Value)) : Prop :=
  ∃ v, valueAt? "enabled" entry = some v ∧ Scalar.readFlag v = .ok false

/-- That an entry sets the severity of its rule. -/
def SetsSeverity (entry : List (String × Value)) (severity : Severity) : Prop :=
  ∃ v, valueAt? "severity" entry = some v ∧
    (Choice.severity v : Checked Empty Severity) = .accepted severity

theorem config_eq_ok_iff_of_entry
    {policy : Policy} {id : String} {m : ConfigModel} {c : RuleConfig m}
    (hentry : policy.ruleEntry id = some entry) :
    policy.config id m = .ok c ↔
      (RuleConfig.ofEntries m (toEntries entry) : Checked Empty (RuleConfig m)) = .accepted c := by
  unfold config
  rw [hentry]
  dsimp only
  cases (RuleConfig.ofEntries m (toEntries entry) : Checked Empty (RuleConfig m)) with
  | accepted c' => simp
  | rejected i is => simp
  | aborted e => exact e.elim

theorem mem_ids_of_ruleEntry
    {policy : Policy} {id : String}
    (hentry : policy.ruleEntry id = some entry) :
    id ∈ policy.ids := by
  obtain ⟨e, he, -⟩ := Option.map_eq_some_iff.mp hentry
  exact List.mem_map.mpr ⟨e, List.mem_of_find?_eq_some he, by simpa using List.find?_some he⟩

end Policy

/-! ## Rules that carry an entry -/

namespace Rule

variable {r : Rule} {entry : List (String × Value)}

/-- That a rule carries the configuration that an entry of a policy sets. -/
def Carries (r : Rule) (entry : List (String × Value)) : Prop :=
  (RuleConfig.ofEntries r.model (Policy.toEntries entry) : Checked Empty (RuleConfig r.model)) =
    .accepted r.config

theorem Carries.enabled_eq_false
    (h : r.Carries entry)
    (hdisables : Policy.Disables entry) :
    r.config.enabled = false := by
  obtain ⟨v, hv, hread⟩ := hdisables
  rw [← lookup?_policyEntries] at hv
  have henabled : (Fields.optional (Policy.toEntries entry) "enabled" true (scalar Scalar.readFlag) :
      Checked Empty Bool) = .accepted false :=
    optional_eq_accepted_iff.mpr (.inr ⟨v, hv, scalar_eq_accepted_iff.mpr hread⟩)
  rw [(RuleConfig.fields_of_ofEntries h).1] at henabled
  exact Checked.accepted.inj henabled

theorem Carries.severity_eq
    {severity : Severity}
    (h : r.Carries entry)
    (hsets : Policy.SetsSeverity entry severity) :
    r.config.severity = some severity := by
  obtain ⟨v, hv, hread⟩ := hsets
  have hnull : v ≠ .null := by
    rintro rfl
    cases hread
  rw [← lookup?_policyEntries] at hv
  have hseverity := field_of_lookup? hv hnull hread
  rw [(RuleConfig.fields_of_ofEntries h).2.1] at hseverity
  exact Checked.accepted.inj hseverity

theorem severityFor_of_severity_eq
    {severity : Severity}
    (h : r.config.severity = some severity)
    (o : Outcome) :
    r.severityFor o = severity := by
  unfold severityFor
  rw [h]
  rfl

end Rule

namespace RuleKind

variable {k : RuleKind} {c : RuleConfig k.model} {r : Rule}

theorem carries_of_rule
    {policy : Policy} {entry : List (String × Value)}
    (hentry : policy.ruleEntry k.id = some entry)
    (hc : policy.config k.id k.model = .ok c)
    (hr : k.rule c = .ok r) :
    r.Carries entry := by
  obtain ⟨category, -, rfl⟩ := exists_eq_of_rule hr
  exact (Policy.config_eq_ok_iff_of_entry hentry).mp hc

/-- A kind that makes a rule with one configuration makes one with any other. -/
theorem exists_rule_of_rule
    (hr : k.rule c = .ok r)
    (c' : RuleConfig k.model) :
    ∃ r', k.rule c' = .ok r' ∧ r'.id = r.id := by
  obtain ⟨category, hcategory, rfl⟩ := exists_eq_of_rule hr
  unfold rule at hr ⊢
  split at hr
  · cases hr
  · rename_i hid
    rw [if_neg hid, hcategory]
    exact ⟨_, rfl, rfl⟩

end RuleKind

namespace Registry

variable {g g' g₁ : Registry} {policy policy' : Policy} {kinds : List RuleKind} {extra : List Rule}

theorem get?_eq_some_iff
    {id : String} {r : Rule} :
    g.get? id = some r ↔ r ∈ g.rules ∧ r.id = id := by
  constructor
  · intro h
    exact ⟨List.mem_of_find?_eq_some h, by simpa using List.find?_some h⟩
  · rintro ⟨hr, rfl⟩
    cases hfound : g.get? r.id with
    | none => exact absurd (beq_self_eq_true r.id) (List.find?_eq_none.mp hfound r hr)
    | some q =>
      have hid : q.id = r.id := by simpa using List.find?_some hfound
      rw [List.inj_on_of_nodup_map g.nodup_ids (List.mem_of_find?_eq_some hfound) hr hid]

/-- Every kind has its rule in the registry that is built. -/
theorem exists_rule_of_mem_kinds
    (h : build policy kinds extra = .ok g)
    {k : RuleKind}
    (hk : k ∈ kinds) :
    ∃ r ∈ g.rules, ∃ c, policy.config k.id k.model = .ok c ∧ k.rule c = .ok r := by
  obtain ⟨rs, hrules, hmade⟩ := forall₂_of_build h
  have hfound : ∃ r ∈ rs, ∃ c, policy.config k.id k.model = .ok c ∧ k.rule c = .ok r := by
    clear h hrules
    induction hmade with
    | nil => cases hk
    | cons hr _ ih =>
      rcases List.mem_cons.mp hk with rfl | hk
      · exact ⟨_, List.mem_cons_self, hr⟩
      · obtain ⟨r, hmem, hr⟩ := ih hk
        exact ⟨r, List.mem_cons_of_mem _ hmem, hr⟩
  obtain ⟨r, hmem, hr⟩ := hfound
  exact ⟨r, by rw [hrules]; exact List.mem_append_left _ hmem, hr⟩

/-- The rule of a kind carries the entry that the policy has for it. -/
theorem get?_of_build
    (h : build policy kinds extra = .ok g)
    {id : String} {entry : List (String × Value)}
    (hentry : policy.ruleEntry id = some entry)
    (hid : id ∈ kinds.map RuleKind.id) :
    ∃ r, g.get? id = some r ∧ r.Carries entry := by
  obtain ⟨k, hk, rfl⟩ := List.mem_map.mp hid
  obtain ⟨r, hmem, c, hc, hr⟩ := exists_rule_of_mem_kinds h hk
  have hrid : r.id = k.id := by
    obtain ⟨category, -, rfl⟩ := RuleKind.exists_eq_of_rule hr
    rfl
  exact ⟨r, get?_eq_some_iff.mpr ⟨hmem, hrid⟩, RuleKind.carries_of_rule hentry hc hr⟩

/-! ## The ids that are known -/

theorem unknownIds_eq_nil_iff
    {known : List String} :
    unknownIds policy known = [] ↔ ∀ id ∈ policy.ids, id ∈ known := by
  unfold unknownIds
  constructor
  · intro h id hid
    by_contra hunknown
    have hmem : id ∈ (policy.ids.filter fun id => !known.contains id).eraseDups :=
      List.mem_eraseDups.mpr (List.mem_filter.mpr ⟨hid, by simpa using hunknown⟩)
    rw [← List.mem_mergeSort, h] at hmem
    cases hmem
  · intro h
    have hnone : (policy.ids.filter fun id => !known.contains id) = [] := by
      refine List.filter_eq_nil_iff.mpr fun id hid => ?_
      simpa using h id hid
    rw [hnone]
    simp

theorem build_of_known
    (h : ∀ id ∈ policy.ids, id ∈ kinds.map RuleKind.id ++ extra.map Rule.id) :
    build policy kinds extra = addKinds policy empty kinds >>= fun g => g.extendAll extra := by
  unfold build
  rw [unknownIds_eq_nil_iff.mpr h]

theorem known_of_build
    (h : build policy kinds extra = .ok g) :
    ∀ id ∈ policy.ids, id ∈ kinds.map RuleKind.id ++ extra.map Rule.id := by
  unfold build at h
  split at h
  · exact unknownIds_eq_nil_iff.mp ‹_›
  · cases h

/-- What a policy has an entry for and no kind has for an id is one of the further rules, as it came. -/
theorem get?_of_build_extra
    (h : build policy kinds extra = .ok g)
    {id : String} {entry : List (String × Value)}
    (hentry : policy.ruleEntry id = some entry)
    (hid : id ∉ kinds.map RuleKind.id) :
    ∃ r ∈ extra, g.get? id = some r := by
  have hknown := known_of_build h id (Policy.mem_ids_of_ruleEntry hentry)
  obtain ⟨r, hr, rfl⟩ := List.mem_map.mp ((List.mem_append.mp hknown).resolve_left hid)
  obtain ⟨rs, hrules, -⟩ := forall₂_of_build h
  exact ⟨r, hr, get?_eq_some_iff.mpr ⟨by rw [hrules]; exact List.mem_append_right _ hr, rfl⟩⟩

/-! ## Building under another policy -/

/-- Whether a rule can be registered depends on the ids alone. -/
theorem register_of_ids_eq
    {r r' : Rule}
    (h : g.register r = .ok g₁)
    (hids : g'.ids = g.ids)
    (hid : r'.id = r.id) :
    ∃ g₁', g'.register r' = .ok g₁' ∧ g₁'.ids = g₁.ids := by
  have hcontains : g'.contains r'.id = g.contains r.id := by rw [contains, contains, hids, hid]
  have hpushed : g₁.ids = g.ids ++ [r.id] := by
    rw [ids, rules_of_register h, List.map_append]
    rfl
  unfold register at h
  split at h
  · cases h
  · rename_i hempty
    split at h
    · cases h
    · rename_i hfresh
      have hfresh' : g'.contains r'.id = false := by
        rw [hcontains]
        exact Bool.eq_false_iff.mpr hfresh
      refine ⟨g'.push r' hfresh', ?_, ?_⟩
      · unfold register
        rw [if_neg (by rwa [hid]), dif_neg (Bool.eq_false_iff.mp hfresh')]
      · rw [hpushed, ← hids, ← hid, push, ids, List.map_append]
        rfl

theorem extendAll_of_ids_eq
    {rs : List Rule}
    (h : g.extendAll rs = .ok g₁)
    (hids : g'.ids = g.ids) :
    ∃ g₁', g'.extendAll rs = .ok g₁' := by
  unfold extendAll at h ⊢
  induction rs generalizing g g' with
  | nil => exact ⟨g', rfl⟩
  | cons r rs ih =>
    unfold extend at h ⊢
    cases hr : g.register r with
    | error e =>
      rw [hr] at h
      cases h
    | ok g₂ =>
      rw [hr] at h
      obtain ⟨g₂', hr', hids'⟩ := register_of_ids_eq hr hids rfl
      rw [hr']
      exact ih h hids'

/-- Kinds that are registered under one policy are registered with the same ids under another, up to
the first whose entry cannot be read. -/
theorem addKinds_eq_ok_or_badPolicy
    (policy' : Policy)
    (h : addKinds policy g kinds = .ok g₁)
    (hids : g'.ids = g.ids) :
    (∃ g₁', addKinds policy' g' kinds = .ok g₁' ∧ g₁'.ids = g₁.ids) ∨
      ∃ k ∈ kinds, ∃ e, policy'.config k.id k.model = .error e ∧
        addKinds policy' g' kinds = .error (.badPolicy e) := by
  induction kinds generalizing g g' with
  | nil =>
    cases h
    exact .inl ⟨g', rfl, hids⟩
  | cons k ks ih =>
    obtain ⟨c, -, h⟩ := bind_eq_ok_iff.mp h
    obtain ⟨r, hr, h⟩ := bind_eq_ok_iff.mp h
    obtain ⟨g₂, hg₂, h⟩ := bind_eq_ok_iff.mp h
    cases hc' : policy'.config k.id k.model with
    | error e =>
      refine .inr ⟨k, List.mem_cons_self, e, hc', ?_⟩
      unfold addKinds
      rw [hc']
      rfl
    | ok c' =>
      -- The id and the category of the rule are the kind's, whatever the configuration.
      obtain ⟨r', hr', hid⟩ := RuleKind.exists_rule_of_rule (mapError_eq_ok_iff.mp hr) c'
      obtain ⟨g₂', hg₂', hids'⟩ := register_of_ids_eq hg₂ hids hid
      have hstep : addKinds policy' g' (k :: ks) = addKinds policy' g₂' ks := by
        rw [addKinds, hc', mapError_ok]
        simp only [bind, Except.bind, hr', mapError_ok, hg₂']
      rw [hstep]
      rcases ih h hids' with hok | ⟨k', hk', hbad⟩
      · exact .inl hok
      · exact .inr ⟨k', List.mem_cons_of_mem k hk', hbad⟩

/-- Kinds and rules that make a registry under one policy make one under any other, unless the other has
an entry for an unknown rule or one that cannot be read. -/
theorem build_eq_ok_or_badPolicy
    (h : build policy kinds extra = .ok g)
    (policy' : Policy) :
    (∃ g', build policy' kinds extra = .ok g') ∨
      ∃ e, build policy' kinds extra = .error (.badPolicy e) ∧
        ((∃ unknown, e = .unknownRules unknown) ∨
          ∃ k ∈ kinds, policy'.config k.id k.model = .error e) := by
  rw [build_of_known (known_of_build h)] at h
  obtain ⟨g₁, hkinds, hextra⟩ := bind_eq_ok_iff.mp h
  by_cases hknown : ∀ id ∈ policy'.ids, id ∈ kinds.map RuleKind.id ++ extra.map Rule.id
  · rw [build_of_known hknown]
    rcases addKinds_eq_ok_or_badPolicy policy' hkinds rfl with ⟨g₁', hkinds', hids⟩ | ⟨k, hk, e, he, hbad⟩
    · obtain ⟨g', hg'⟩ := extendAll_of_ids_eq hextra hids
      exact .inl ⟨g', by rw [hkinds']; exact hg'⟩
    · exact .inr ⟨e, by rw [hbad]; rfl, .inr ⟨k, hk, he⟩⟩
  · right
    unfold build
    split
    · exact absurd (unknownIds_eq_nil_iff.mp ‹_›) hknown
    · exact ⟨_, rfl, .inl ⟨_, rfl⟩⟩

end Registry
end RollupAudit
