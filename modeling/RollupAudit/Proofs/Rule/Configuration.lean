import Mathlib.Data.List.Forall2
import RollupAudit.Proofs.Facts.Normal
import RollupAudit.Rule.Registry

/-!
# Configurations of registered rules

A policy is checked when the rules are registered, and so the constants of every registered rule lie
within the bounds of their kinds: a number of seconds never exceeds what a duration can hold. The
registry that is built without further rules has the built-in rules in their order and no others.

**Results.**
* `RuleConfig.within_of_config`: what a policy sets for a rule is within the bounds of its kinds.
* `Registry.forall₂_of_build`: the rules of a registry are made of the kinds, each with what the policy
  sets for it, and followed by the further rules.
* `Registry.forall₂_of_build_builtin`: the rules of a registry are the built-in ones, each with what
  the policy sets for it.
-/

namespace RollupAudit

open Fields

/-- That a constant is within the bounds of its kind. -/
def ConstantKind.Within : (k : ConstantKind) → k.Carrier → Prop
  | .seconds, (n : Nat) => n ≤ Duration.maxSeconds
  | .count least, (n : Nat) => least ≤ n
  | .parameterName, (_ : String) => True
  | .names, (_ : List String) => True
  | .ratio, (d : Decimal) => d.IsAmount

def Constants.Within : (cs : List Constant) → Constants cs → Prop
  | [], _ => True
  | c :: cs, (a, rest) => c.kind.Within a ∧ Within cs rest

namespace ConstantKind

/-- A number that is read between bounds lies between them. -/
theorem readNatBetween_spec
    {low : Nat} {high : Option Nat} {v : Value} {n : Nat}
    (h : readNatBetween low high v = .ok n) :
    low ≤ n ∧ ∀ most ∈ high, n ≤ most := by
  obtain ⟨m, hread, hm⟩ := bind_eq_ok_iff.mp h
  have hlow := Scalar.le_of_readIntFrom hread
  cases high with
  | none =>
    cases hm
    exact ⟨by omega, by simp⟩
  | some most =>
    dsimp only at hm
    split at hm
    · cases hm
    · cases hm
      refine ⟨by omega, ?_⟩
      rintro _ ⟨⟩
      omega

theorem within_of_read
    {ε : Type} {v : Value}
    (k : ConstantKind)
    {a : k.Carrier}
    (h : (k.read v : Checked ε k.Carrier) = .accepted a) :
    k.Within a := by
  cases k with
  | seconds => exact (readNatBetween_spec (scalar_eq_accepted_iff.mp h)).2 _ rfl
  | count least => exact (readNatBetween_spec (scalar_eq_accepted_iff.mp h)).1
  | parameterName => trivial
  | names => trivial
  | ratio => exact Reading.readAmount_spec (scalar_eq_accepted_iff.mpr (scalar_eq_accepted_iff.mp h))

end ConstantKind

namespace Constants

/-- Constants that are read are within their bounds if their defaults are. -/
theorem within_of_read
    {ε : Type} {es : Entries}
    (cs : List Constant)
    (hdefaults : Within cs (defaults cs))
    {values : Constants cs}
    (h : (read cs es : Checked ε (Constants cs)) = .accepted values) :
    Within cs values := by
  induction cs with
  | nil => trivial
  | cons c cs ih =>
    obtain ⟨_, rest, hfirst, hrest, rfl⟩ := Checked.ap_eq_accepted_iff.mp h
    obtain ⟨a, ha, rfl⟩ := Checked.map_eq_accepted_iff.mp hfirst
    refine ⟨?_, ih hdefaults.2 hrest⟩
    rcases optional_eq_accepted_iff.mp ha with ⟨-, rfl⟩ | ⟨v, -, hv⟩
    · exact hdefaults.1
    · exact c.kind.within_of_read hv

theorem within_defaults
    (m : ConfigModel) :
    Within m.constants (defaults m.constants) := by
  cases m <;> simp [ConfigModel.constants, ConfigModel.secondsConstant, ConfigModel.countConstant,
    ConfigModel.parameterConstant, ConfigModel.days, ConfigModel.hours, defaults, Within,
    ConstantKind.Within, Duration.maxSeconds, Duration.maxDays, Duration.secondsPerDay,
    Decimal.IsAmount, Decimal.one, Decimal.ofInt]

end Constants

namespace RuleConfig

/-- What the entries of a mapping set is read field by field. -/
theorem fields_of_ofEntries
    {ε : Type} {m : ConfigModel} {es : Entries} {c : RuleConfig m}
    (h : (ofEntries m es : Checked ε (RuleConfig m)) = .accepted c) :
    (Fields.optional es "enabled" true (scalar Scalar.readFlag) : Checked ε Bool) =
        .accepted c.enabled ∧
      (Fields.field es "severity" Choice.severity : Checked ε (Option Severity)) =
        .accepted c.severity ∧
      (Constants.read m.constants es : Checked ε m.Values) = .accepted c.values := by
  obtain ⟨c', hfields, hconsistent⟩ := Checked.andThen_eq_accepted_iff.mp h
  have hsame : c' = c := by
    unfold consistent at hconsistent
    split at hconsistent
    · cases hconsistent
    · cases hconsistent
      rfl
  subst hsame
  have hbuilt := (andCheck_eq_accepted_iff.mp hfields).1
  obtain ⟨_, values, hswitches, hvalues, rfl⟩ := Checked.ap_eq_accepted_iff.mp hbuilt
  obtain ⟨_, severity, hswitch, hseverity, rfl⟩ := Checked.ap_eq_accepted_iff.mp hswitches
  obtain ⟨enabled, henabled, rfl⟩ := Checked.map_eq_accepted_iff.mp hswitch
  exact ⟨henabled, hseverity, hvalues⟩

/-- What the entries of a mapping set is within the bounds. -/
theorem within_of_ofEntries
    {ε : Type} {m : ConfigModel} {es : Entries} {c : RuleConfig m}
    (h : (ofEntries m es : Checked ε (RuleConfig m)) = .accepted c) :
    Constants.Within m.constants c.values :=
  Constants.within_of_read _ (Constants.within_defaults m) (fields_of_ofEntries h).2.2

/-- What a policy sets for a rule, or leaves as it is, is within the bounds. -/
theorem within_of_config
    {policy : Policy} {id : String} {m : ConfigModel} {c : RuleConfig m}
    (h : policy.config id m = .ok c) :
    Constants.Within m.constants c.values := by
  unfold Policy.config at h
  split at h
  · cases h
    exact Constants.within_defaults m
  · split at h
    · rename_i haccepted
      cases h
      exact within_of_ofEntries haccepted
    · cases h

end RuleConfig

namespace Registry

theorem rules_of_register
    {g g' : Registry} {r : Rule}
    (h : g.register r = .ok g') :
    g'.rules = g.rules ++ [r] := by
  unfold register at h
  split at h
  · cases h
  · split at h
    · cases h
    · cases h
      rfl

/-- The rules of kinds are registered one after another, each with what the policy sets for it. -/
theorem forall₂_of_addKinds
    {policy : Policy} {g g' : Registry} {ks : List RuleKind}
    (h : addKinds policy g ks = .ok g') :
    ∃ rs, g'.rules = g.rules ++ rs ∧
      List.Forall₂ (fun k r => ∃ c, policy.config k.id k.model = .ok c ∧ k.rule c = .ok r) ks rs := by
  induction ks generalizing g with
  | nil =>
    cases h
    exact ⟨[], by simp, .nil⟩
  | cons k ks ih =>
    obtain ⟨c, hc, h⟩ := bind_eq_ok_iff.mp h
    obtain ⟨r, hr, h⟩ := bind_eq_ok_iff.mp h
    obtain ⟨g₁, hg₁, h⟩ := bind_eq_ok_iff.mp h
    obtain ⟨rs, hrules, hmade⟩ := ih h
    have hmadeFirst : ∃ c, policy.config k.id k.model = .ok c ∧ k.rule c = .ok r :=
      ⟨c, mapError_eq_ok_iff.mp hc, mapError_eq_ok_iff.mp hr⟩
    exact ⟨r :: rs, by simp [hrules, rules_of_register hg₁], .cons hmadeFirst hmade⟩

theorem rules_of_extendAll
    {g g' : Registry} {rs : List Rule}
    (h : g.extendAll rs = .ok g') :
    g'.rules = g.rules ++ rs := by
  unfold extendAll at h
  induction rs generalizing g with
  | nil =>
    cases h
    simp
  | cons r rs ih =>
    unfold extend at h
    cases hr : g.register r with
    | error e =>
      rw [hr] at h
      cases h
    | ok g₁ =>
      rw [hr] at h
      rw [ih h, rules_of_register hr, List.append_assoc, List.singleton_append]

/-- A registry that is built has a rule for each kind, with what the policy sets for it, and then the
further rules. -/
theorem forall₂_of_build
    {policy : Policy} {kinds : List RuleKind} {extra : List Rule} {g : Registry}
    (h : build policy kinds extra = .ok g) :
    ∃ rs, g.rules = rs ++ extra ∧
      List.Forall₂ (fun k r => ∃ c, policy.config k.id k.model = .ok c ∧ k.rule c = .ok r) kinds rs := by
  unfold build at h
  split at h
  · obtain ⟨g₁, hg₁, hextended⟩ := bind_eq_ok_iff.mp h
    obtain ⟨rs, hrules, hmade⟩ := forall₂_of_addKinds hg₁
    rw [empty, List.nil_append] at hrules
    exact ⟨rs, by rw [rules_of_extendAll hextended, hrules], hmade⟩
  · cases h

/-- The registry that is built without further rules has the built-in rules in their order, each
with what the policy sets for it. -/
theorem forall₂_of_build_builtin
    {policy : Policy} {g : Registry}
    (h : build policy = .ok g) :
    List.Forall₂ (fun (b : Builtin) r => ∃ c, policy.config b.id b.model = .ok c ∧ r = b.rule c)
      Builtin.all g.rules := by
  obtain ⟨rs, hrules, hmade⟩ := forall₂_of_build h
  rw [hrules, List.append_nil]
  refine (List.forall₂_map_left_iff.mp hmade).imp ?_
  rintro b r ⟨c, hc, hr⟩
  have hrule : (.ok (b.rule c) : Except RuleError Rule) = .ok r := (b.rule_kind c).symm.trans hr
  cases hrule
  exact ⟨c, hc, rfl⟩

variable {policy : Policy} {g : Registry}

theorem ids_of_build_builtin
    (h : build policy = .ok g) :
    g.ids = Builtin.all.map Builtin.id := by
  have hids : List.Forall₂ (fun (b : Builtin) r => b.id = r.id) Builtin.all g.rules := by
    refine (forall₂_of_build_builtin h).imp ?_
    rintro b r ⟨c, -, rfl⟩
    rfl
  have heq := List.forall₂_map_left_iff.mpr (List.forall₂_map_right_iff.mpr hids)
  rw [List.forall₂_eq_eq_eq] at heq
  exact heq.symm

theorem exists_builtin_of_mem
    (h : build policy = .ok g)
    {r : Rule}
    (hr : r ∈ g.rules) :
    ∃ (b : Builtin) (c : RuleConfig b.model), policy.config b.id b.model = .ok c ∧ r = b.rule c := by
  have hrules := forall₂_of_build_builtin h
  generalize Builtin.all = bs at hrules
  generalize g.rules = rs at hrules hr
  induction hrules with
  | nil => cases hr
  | cons hmade _ ih =>
    rcases List.mem_cons.mp hr with rfl | hr
    · exact ⟨_, hmade⟩
    · exact ih hr

end Registry

/-- A rule that the policy disables makes no check. -/
theorem Rule.run_of_enabled_eq_false
    {r : Rule}
    (h : r.config.enabled = false)
    (f : Facts) :
    r.run f = disabledOutcome := by
  unfold run attempt
  rw [h]
  rfl

section Builtin

variable {b : Builtin} {c : RuleConfig b.model} {f : Facts}

/-- A built-in rule that the policy enables comes to what its check does. -/
theorem Builtin.run_rule_of_enabled
    (h : c.enabled = true) :
    (b.rule c).run f = (Attempt.ofCheck (b.check c.values f)).outcome :=
  congrArg Attempt.outcome (if_pos h)

theorem Builtin.run_rule_eq
    {o : Outcome}
    (henabled : c.enabled = true)
    (h : b.check c.values f = .ok o) :
    (b.rule c).run f = o := by
  rw [run_rule_of_enabled henabled, h]
  rfl

/-- That a run does nothing to the evaluation that it is part of, and that no error leaves it. -/
structure Attempt.IsQuiet (a : Attempt) : Prop where
  cancels_eq : a.cancels = false
  outlasts_eq : a.outlasts = false
  escape?_eq : a.escape? = none

theorem Attempt.isQuiet_gives (o : Outcome) : (gives o).IsQuiet := ⟨rfl, rfl, rfl⟩

/-- Every fault of a check of the library can be put into words. -/
theorem Attempt.exists_conclusion_ofCheck_error
    (fault : CheckFault) :
    ∃ text, (ofCheck (.error fault)).conclusion = .ok (.broken text) := by
  cases fault <;> exact ⟨_, rfl⟩

theorem Attempt.isQuiet_ofCheck (r : CheckResult) : (ofCheck r).IsQuiet := by
  refine ⟨rfl, rfl, ?_⟩
  cases r with
  | ok o => rfl
  | error fault =>
    obtain ⟨text, htext⟩ := exists_conclusion_ofCheck_error fault
    rw [escape?, htext]

/-- The runs of the rules of a policy are quiet. -/
theorem Registry.isQuiet_of_build
    {policy : Policy} {g : Registry} {r : Rule}
    (hbuild : build policy = .ok g)
    (hr : r ∈ g.rules)
    (f : Facts) :
    (r.attempt f).IsQuiet := by
  obtain ⟨b, c, -, rfl⟩ := exists_builtin_of_mem hbuild hr
  unfold Rule.attempt
  split
  · exact Attempt.isQuiet_ofCheck _
  · exact Attempt.isQuiet_gives _

end Builtin
end RollupAudit
