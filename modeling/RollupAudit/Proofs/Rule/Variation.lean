import Mathlib.Data.List.Forall2
import RollupAudit.Proofs.Rule.Configuration

/-!
# Registries that differ in one rule

Two registries vary at a rule if they have the same ids and categories in the same places and the same
rules but for the one with that id. Policies that set the same for all other rules make such
registries, and if they differ in nothing but the severity of the rule, so do the two rules.

**Results.**
* `Registry.VariesAt.forall₂`: registries that vary at a rule, by place.
* `Registry.VariesInSeverityAt.forall₂`: registries that vary in the severity of a rule, by place.
-/

namespace RollupAudit

open Fields

variable {id : String}

/-- The rule with a severity that the policy sets, or with none. -/
def Rule.withPolicySeverity (r : Rule) (severity : Option Severity) : Rule :=
  { r with config := { r.config with severity } }

/-- That rules have one id and one category, and are one rule unless the id is a given one. -/
structure Rule.SameBut (id : String) (r r' : Rule) : Prop where
  id_eq : r'.id = r.id
  category_eq : r'.category = r.category
  eq_of_ne : r.id ≠ id → r' = r

/-- That rules are one rule but for the severity that the policy sets, and in that too unless the id is
a given one. -/
structure Rule.SameButSeverity (id : String) (r r' : Rule) : Prop where
  eq : ∃ severity, r' = r.withPolicySeverity severity
  eq_of_ne : r.id ≠ id → r' = r

theorem Rule.sameBut_refl (r : Rule) : r.SameBut id r := ⟨rfl, rfl, fun _ => rfl⟩

theorem Rule.sameButSeverity_refl (r : Rule) : r.SameButSeverity id r :=
  ⟨⟨r.config.severity, rfl⟩, fun _ => rfl⟩

theorem Rule.SameButSeverity.sameBut
    {r r' : Rule}
    (h : r.SameButSeverity id r') :
    r.SameBut id r' := by
  obtain ⟨⟨severity, rfl⟩, hne⟩ := h
  exact ⟨rfl, rfl, hne⟩

namespace Policy

/-- What a policy sets for a rule; nothing if it does not mention the rule. -/
def entryOf (p : Policy) (ruleId : String) : List (String × Value) := (p.ruleEntry ruleId).getD []

/-- That policies set the same for every rule but one. -/
def SameBut (id : String) (p p' : Policy) : Prop :=
  ∀ other, other ≠ id → p'.ruleEntry other = p.ruleEntry other

/-- That policies set the same for every rule but one, and for that one but for its severity. -/
structure SameButSeverity (id : String) (p p' : Policy) : Prop where
  sameBut : p.SameBut id p'
  entry_eq : ∀ key, key ≠ "severity" → valueAt? key (p'.entryOf id) = valueAt? key (p.entryOf id)

end Policy

/-! ## Configurations that differ in the severity -/

theorem lookup?_policyEntries
    (key : String)
    (entry : List (String × Value)) :
    Value.lookup? key (Policy.toEntries entry) = valueAt? key entry := by
  induction entry with
  | nil => rfl
  | cons e entry ih =>
    simp only [Policy.toEntries, valueAt?] at ih ⊢
    by_cases he : e.1 = key <;> simp [Value.lookup?, he, ih]

namespace Constants

theorem read_congr
    {ε : Type} {cs : List Constant} {es es' : Entries}
    (h : ∀ c ∈ cs, Value.lookup? c.name es' = Value.lookup? c.name es) :
    (read cs es' : Checked ε (Constants cs)) = read cs es := by
  induction cs with
  | nil => rfl
  | cons c cs ih =>
    rw [read, read, optional_congr (h c List.mem_cons_self),
      ih fun d hd => h d (List.mem_cons_of_mem c hd)]

theorem read_nil
    {ε : Type}
    (cs : List Constant) :
    (read cs [] : Checked ε (Constants cs)) = .accepted (defaults cs) := by
  induction cs with
  | nil => rfl
  | cons c cs ih =>
    rw [read, ih]
    rfl

end Constants

namespace RuleConfig

variable {m : ConfigModel}

/-- The configuration of a rule is read from what the policy sets, which may be nothing. -/
theorem fields_of_config
    {p : Policy} {c : RuleConfig m}
    (h : p.config id m = .ok c) :
    (Fields.optional (Policy.toEntries (p.entryOf id)) "enabled" true (scalar Scalar.readFlag) :
        Checked Empty Bool) = .accepted c.enabled ∧
      (Constants.read m.constants (Policy.toEntries (p.entryOf id)) : Checked Empty m.Values) =
        .accepted c.values := by
  unfold Policy.config at h
  unfold Policy.entryOf
  cases hentry : p.ruleEntry id with
  | none =>
    rw [hentry] at h
    cases h
    exact ⟨rfl, Constants.read_nil m.constants⟩
  | some entry =>
    rw [hentry] at h
    dsimp only at h
    split at h
    · rename_i haccepted
      cases h
      obtain ⟨henabled, -, hvalues⟩ := fields_of_ofEntries haccepted
      exact ⟨henabled, hvalues⟩
    · cases h

/-- No constant of a rule is named as the switch or the severity. -/
theorem name_ne_severity
    {c : Constant}
    (h : c ∈ m.constants) :
    c.name ≠ "severity" := by
  revert c
  cases m <;> simp [ConfigModel.constants, ConfigModel.secondsConstant, ConfigModel.countConstant,
    ConfigModel.parameterConstant]

/-- Policies that set the same for a rule but for its severity switch it and set its constants alike. -/
theorem eq_of_sameButSeverity
    {p p' : Policy} {c c' : RuleConfig m}
    (hp : p.SameButSeverity id p')
    (hc : p.config id m = .ok c)
    (hc' : p'.config id m = .ok c') :
    c' = { c with severity := c'.severity } := by
  obtain ⟨henabled, hvalues⟩ := fields_of_config hc
  obtain ⟨henabled', hvalues'⟩ := fields_of_config hc'
  have hlookup (key : String) (hkey : key ≠ "severity") :
      Value.lookup? key (Policy.toEntries (p'.entryOf id)) =
        Value.lookup? key (Policy.toEntries (p.entryOf id)) := by
    rw [lookup?_policyEntries, lookup?_policyEntries, hp.entry_eq key hkey]
  rw [optional_congr (hlookup _ (by decide)), henabled] at henabled'
  rw [Constants.read_congr fun c hc => hlookup c.name (name_ne_severity hc), hvalues] at hvalues'
  obtain ⟨enabled, severity, values⟩ := c'
  cases henabled'
  cases hvalues'
  rfl

end RuleConfig

/-! ## Rules and registries -/

namespace RuleKind

variable {k : RuleKind} {c c' : RuleConfig k.model} {r r' : Rule}

/-- The rule of a kind is the kind with the configuration. -/
theorem exists_eq_of_rule
    (h : k.rule c = .ok r) :
    ∃ category, k.category = some category ∧
      r = { id := k.id, title := k.title, category, defaultSeverity := k.defaultSeverity,
            model := k.model, config := c, check := k.check c.values,
            moduleName := k.moduleName, className := k.className } := by
  unfold RuleKind.rule at h
  split at h
  · cases h
  · split at h
    · cases h
    · rename_i category hcategory
      cases h
      exact ⟨category, hcategory, rfl⟩

theorem sameBut_of_rule
    (hne : k.id ≠ id → c' = c)
    (hr : k.rule c = .ok r)
    (hr' : k.rule c' = .ok r') :
    r.SameBut id r' := by
  obtain ⟨category, hcategory, rfl⟩ := exists_eq_of_rule hr
  obtain ⟨category', hcategory', rfl⟩ := exists_eq_of_rule hr'
  cases hcategory.symm.trans hcategory'
  refine ⟨rfl, rfl, fun h => ?_⟩
  cases hne h
  rfl

theorem sameButSeverity_of_rule
    {severity : Option Severity}
    (hc : c' = { c with severity })
    (hr : k.rule c = .ok r)
    (hr' : k.rule c' = .ok r') :
    r.SameButSeverity k.id r' := by
  obtain ⟨category, hcategory, rfl⟩ := exists_eq_of_rule hr
  obtain ⟨category', hcategory', rfl⟩ := exists_eq_of_rule hr'
  cases hcategory.symm.trans hcategory'
  subst hc
  exact ⟨⟨severity, rfl⟩, fun hne => absurd rfl hne⟩

end RuleKind

namespace Registry

/-- That registries have the same rules in the same places, but for the rule with an id: rule by rule,
or because they were built under policies that set the same for all other rules. -/
inductive VariesAt (id : String) : Registry → Registry → Prop
  | rules {g g' : Registry} (h : List.Forall₂ (Rule.SameBut id) g.rules g'.rules) : VariesAt id g g'
  | policies {policy policy' : Policy} {kinds : List RuleKind} {extra : List Rule} {g g' : Registry}
      (h : policy.SameBut id policy')
      (hg : build policy kinds extra = .ok g)
      (hg' : build policy' kinds extra = .ok g') : VariesAt id g g'

/-- That registries have the same rules in the same places, but for the policy's severity of the rule
with an id. -/
inductive VariesInSeverityAt (id : String) : Registry → Registry → Prop
  | rules {g g' : Registry} (h : List.Forall₂ (Rule.SameButSeverity id) g.rules g'.rules) :
      VariesInSeverityAt id g g'
  | policies {policy policy' : Policy} {kinds : List RuleKind} {extra : List Rule} {g g' : Registry}
      (h : policy.SameButSeverity id policy')
      (hg : build policy kinds extra = .ok g)
      (hg' : build policy' kinds extra = .ok g') : VariesInSeverityAt id g g'

variable {g g' : Registry}

/-- Registries that are built of the same kinds and further rules are related by place if the rules of
each kind are. -/
theorem forall₂_of_builds
    {policy policy' : Policy} {kinds : List RuleKind} {extra : List Rule} {R : Rule → Rule → Prop}
    (hg : build policy kinds extra = .ok g)
    (hg' : build policy' kinds extra = .ok g')
    (hrefl : ∀ r, R r r)
    (hmake : ∀ (k : RuleKind) (c c' : RuleConfig k.model) (r r' : Rule),
      policy.config k.id k.model = .ok c → policy'.config k.id k.model = .ok c' →
        k.rule c = .ok r → k.rule c' = .ok r' → R r r') :
    List.Forall₂ R g.rules g'.rules := by
  obtain ⟨rs, hrules, hmade⟩ := forall₂_of_build hg
  obtain ⟨rs', hrules', hmade'⟩ := forall₂_of_build hg'
  rw [hrules, hrules']
  refine List.rel_append ?_ (List.forall₂_same.mpr fun r _ => hrefl r)
  clear hg hg' hrules hrules'
  induction hmade generalizing rs' with
  | nil =>
    cases hmade'
    exact .nil
  | cons hr _ ih =>
    cases hmade' with
    | cons hr' hrest =>
      obtain ⟨c, hc, hr⟩ := hr
      obtain ⟨c', hc', hr'⟩ := hr'
      exact .cons (hmake _ c c' _ _ hc hc' hr hr') (ih _ hrest)

theorem config_eq_of_sameBut
    {policy policy' : Policy} {ruleId : String} {m : ConfigModel} {c c' : RuleConfig m}
    (h : policy.SameBut id policy')
    (hne : ruleId ≠ id)
    (hc : policy.config ruleId m = .ok c)
    (hc' : policy'.config ruleId m = .ok c') :
    c' = c := by
  unfold Policy.config at hc hc'
  rw [h ruleId hne] at hc'
  exact Except.ok.inj (hc'.symm.trans hc)

theorem VariesAt.forall₂
    (h : g.VariesAt id g') :
    List.Forall₂ (Rule.SameBut id) g.rules g'.rules := by
  cases h with
  | rules h => exact h
  | policies h hg hg' =>
    refine forall₂_of_builds hg hg' Rule.sameBut_refl ?_
    intro k c c' r r' hc hc' hr hr'
    exact RuleKind.sameBut_of_rule (fun hne => config_eq_of_sameBut h hne hc hc') hr hr'

theorem VariesInSeverityAt.forall₂
    (h : g.VariesInSeverityAt id g') :
    List.Forall₂ (Rule.SameButSeverity id) g.rules g'.rules := by
  cases h with
  | rules h => exact h
  | policies h hg hg' =>
    refine forall₂_of_builds hg hg' Rule.sameButSeverity_refl ?_
    intro k c c' r r' hc hc' hr hr'
    by_cases hid : k.id = id
    · subst hid
      exact RuleKind.sameButSeverity_of_rule (RuleConfig.eq_of_sameButSeverity h hc hc') hr hr'
    · cases config_eq_of_sameBut h.sameBut hid hc hc'
      cases hr.symm.trans hr'
      exact r.sameButSeverity_refl

theorem VariesInSeverityAt.variesAt
    (h : g.VariesInSeverityAt id g') :
    g.VariesAt id g' :=
  .rules (h.forall₂.imp fun _ _ hr => hr.sameBut)

end Registry
end RollupAudit
