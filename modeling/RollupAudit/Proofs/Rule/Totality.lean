import Mathlib.Data.List.Nodup
import RollupAudit.Proofs.Check.Totality
import RollupAudit.Proofs.Rule.Configuration

/-!
# Built-in rules that break down

A built-in rule under a policy that was accepted comes to an outcome on every snapshot that has a
reference, whatever sections and parameters the snapshot has. The one exception is the coverage of
withdrawals, whose product of two amounts has no bound.

**Results.**
* `Builtin.settles_check`: every built-in check but the one of coverage settles.
* `internalError_run_iff_of_build`: when a rule of a registry of built-in rules breaks down.
-/

namespace RollupAudit

namespace Check

variable (f : Facts)

theorem internalError_anchorSource (names : List String) :
    (anchorSource names f).internalError = false := by
  unfold anchorSource
  split
  · rfl
  · split
    · rfl
    · split <;> rfl

theorem internalError_failover (role : String) (o : Option OperatorFacts) :
    (failover role o).internalError = false := by
  unfold failover
  split
  · rfl
  · dsimp only
    split
    · rfl
    · split <;> rfl

theorem internalError_sequencerRotation : (sequencerRotation f).internalError = false := by
  unfold sequencerRotation
  split
  · rfl
  · split
    · rfl
    · split <;> rfl

theorem internalError_sequencerForceInclusion :
    (sequencerForceInclusion f).internalError = false := by
  unfold sequencerForceInclusion
  split <;> rfl

theorem internalError_proposerFailover : (proposerFailover f).internalError = false := by
  unfold proposerFailover
  split
  · rfl
  · exact internalError_failover _ _

theorem internalError_oracleBackup : (oracleBackup f).internalError = false := by
  unfold oracleBackup
  split
  · rfl
  · split <;> rfl

theorem internalError_oracleDistinct : (oracleDistinct f).internalError = false := by
  unfold oracleDistinct
  split
  · rfl
  · split
    · rfl
    · split <;> rfl

theorem internalError_adminMultisig : (adminMultisig f).internalError = false := by
  unfold adminMultisig
  split
  · rfl
  · split <;> rfl

theorem internalError_escapeHatch : (escapeHatch f).internalError = false := by
  unfold escapeHatch
  split <;> rfl

theorem internalError_emergencyMode : (emergencyMode f).internalError = false := by
  unfold emergencyMode
  split <;> rfl

end Check

/-- That the integers among constants have few enough digits to be shown. -/
def Constants.HasWritableIntegers (cs : List Constant) (values : Constants cs) : Prop :=
  ∀ e ∈ Constants.toEntries cs values, ∀ n, e.2 = .int n → Text.isWritable n = true

namespace Builtin

open Check

theorem id_injective
    {b b' : Builtin}
    (h : b.id = b'.id) :
    b = b' :=
  List.inj_on_of_nodup_map nodup_map_id_all b.mem_all b'.mem_all h

/-- Every built-in check but the one of coverage comes to an outcome. -/
theorem settles_check
    (b : Builtin)
    (hb : b ≠ .withdrawalLiquidity)
    {values : b.model.Values}
    (hwithin : Constants.Within b.model.constants values)
    (hintegers : Constants.HasWritableIntegers b.model.constants values)
    {f : Facts}
    (hf : f.HasWritableIntegers) :
    (b.check values f).Settles := by
  cases b with
  | anchorFreshness => exact settles_anchorFreshness hwithin.1
  | anchorSource => exact settles_ok (internalError_anchorSource f _)
  | productionTested => exact settles_ok rfl
  | documentation => exact settles_ok rfl
  | externalAudit => exact settles_ok rfl
  | sequencerFailover => exact settles_ok (internalError_failover _ _)
  | sequencerLiveness => exact settles_liveness _ _ hwithin.1
  | sequencerRotation => exact settles_ok (internalError_sequencerRotation f)
  | sequencerForceInclusion => exact settles_ok (internalError_sequencerForceInclusion f)
  | proposerFailover => exact settles_ok (internalError_proposerFailover f)
  | proposerLiveness => exact settles_liveness _ _ hwithin.1
  | oracleBackup => exact settles_ok (internalError_oracleBackup f)
  | oracleDistinct => exact settles_ok (internalError_oracleDistinct f)
  | oracleFreshnessBound => exact settles_oracleFreshnessBound hf hwithin.1
  | oracleStaleness => exact settles_oracleStaleness hf
  | blockGasLimit =>
    obtain ⟨name, maximum, rest⟩ := values
    exact settles_blockGasLimit hf name (hintegers (_, .int (.ofNat maximum)) (.tail _ (.head _)) _ rfl)
  | txRateLimit =>
    obtain ⟨name, maximum, rest⟩ := values
    exact settles_txRateLimit hf name (hintegers (_, .int (.ofNat maximum)) (.tail _ (.head _)) _ rfl)
  | confirmationDepth =>
    obtain ⟨name, minimum, rest⟩ := values
    exact settles_confirmationDepth hf name (hintegers (_, .int (.ofNat minimum)) (.tail _ (.head _)) _ rfl)
  | exitWindow => exact settles_exitWindow hf _ hwithin.1
  | exitWindowCoversWithdrawal => exact settles_exitWindowCoversWithdrawal hf
  | pendingActivation => exact settles_pendingActivation f hwithin.1
  | adminMultisig => exact settles_ok (internalError_adminMultisig f)
  | withdrawalDelay => exact settles_withdrawalDelay hf hwithin.1
  | withdrawalLiquidity => exact absurd rfl hb
  | escapeHatch => exact settles_ok (internalError_escapeHatch f)
  | emergencyMode => exact settles_ok (internalError_emergencyMode f)

end Builtin

theorem outcome_ofCheck_of_settles
    {r : CheckResult}
    (h : r.Settles) :
    (Attempt.ofCheck r).outcome.internalError = false := by
  obtain ⟨o, rfl, ho⟩ := h
  exact ho

/-- A disabled rule does not break down; an enabled one does if its check does. -/
theorem Rule.internalError_run
    (r : Rule)
    (f : Facts) :
    (r.run f).internalError = (r.config.enabled && (r.check f).outcome.internalError) := by
  unfold run attempt
  cases r.config.enabled <;> rfl

/-- The constants that a rule was registered with. -/
def Rule.constants (r : Rule) : Entries := Constants.toEntries r.model.constants r.config.values

/-- The ratio of the coverage check. -/
def RuleConfig.coverageRatio : RuleConfig Builtin.withdrawalLiquidity.model → Decimal
  | ⟨_, _, ((ratio : Decimal), _)⟩ => ratio

theorem mem_constants_withdrawalLiquidity
    {c : RuleConfig Builtin.withdrawalLiquidity.model} {ratio : Decimal} :
    (.text "minimum_coverage_ratio", .decimal (.finite ratio)) ∈
        (Builtin.withdrawalLiquidity.rule c).constants ↔
      c.coverageRatio = ratio := by
  show (_, _) ∈ [(_, Value.decimal (.finite c.coverageRatio))] ↔ _
  rw [List.mem_singleton]
  constructor
  · intro h
    injection h with _ hvalue
    injection hvalue with hfinite
    injection hfinite with hratio
    exact hratio.symm
  · rintro rfl
    rfl

/-- When a built-in rule breaks down, given what the policy sets for it. -/
theorem Builtin.internalError_run_rule_iff
    (b : Builtin)
    {c : RuleConfig b.model}
    (hwithin : Constants.Within b.model.constants c.values)
    (hintegers : Constants.HasWritableIntegers b.model.constants c.values)
    {f : Facts}
    (hf : f.HasWritableIntegers) :
    ((b.rule c).run f).internalError = true ↔
      b.id = "withdrawal.liquidity" ∧ c.enabled = true ∧
        ∃ ratio, (.text "minimum_coverage_ratio", .decimal (.finite ratio)) ∈ (b.rule c).constants ∧
          Check.CoverageOverflows ratio f := by
  rw [Rule.internalError_run, Bool.and_eq_true]
  -- Only the coverage of withdrawals multiplies two amounts, which no bound keeps from overflowing.
  by_cases hb : b = .withdrawalLiquidity
  · subst hb
    have hcheck : (rule .withdrawalLiquidity c).check f =
        .ofCheck (Check.withdrawalLiquidity c.coverageRatio f) := rfl
    simp only [mem_constants_withdrawalLiquidity, exists_eq_left', hcheck]
    rcases Check.withdrawalLiquidity_settles_or c.coverageRatio f with
      ⟨hsettles, hnot⟩ | ⟨hfault, hoverflows⟩
    · rw [outcome_ofCheck_of_settles hsettles]
      simp [hnot]
    · rw [hfault]
      exact ⟨fun h => ⟨rfl, h.1, hoverflows⟩, fun h => ⟨h.2.1, rfl⟩⟩
  · have hsettles := b.settles_check hb hwithin hintegers hf
    have hid : b.id ≠ id .withdrawalLiquidity := fun h => hb (id_injective h)
    constructor
    · rintro ⟨-, herror⟩
      have hnone : ((b.rule c).check f).outcome.internalError = false :=
        outcome_ofCheck_of_settles hsettles
      rw [hnone] at herror
      cases herror
    · rintro ⟨h, -⟩
      exact absurd h hid

/-- The rules of a registry that is built without further rules are the built-in ones. On a snapshot
that has a reference none of them breaks down but the coverage of withdrawals, and that one exactly
if it is enabled, both amounts are known, and the product of the pending withdrawals and the ratio
overflows. -/
theorem internalError_run_iff_of_build
    {policy : Policy} {g : Registry}
    (hbuild : Registry.build policy = .ok g)
    (hintegers : ∀ r ∈ g.rules, Constants.HasWritableIntegers r.model.constants r.config.values)
    {f : Facts}
    (hreference : f.reference?.isSome = true) :
    g.ids = Builtin.all.map Builtin.id ∧
      ∀ r ∈ g.rules, (r.run f).internalError = true ↔
        r.id = "withdrawal.liquidity" ∧ r.config.enabled = true ∧
          ∃ ratio, (.text "minimum_coverage_ratio", .decimal (.finite ratio)) ∈ r.constants ∧
            Check.CoverageOverflows ratio f := by
  have hf := Facts.hasWritableIntegers_of_toJson (Facts.isWritable_toJson_iff.mpr hreference)
  refine ⟨Registry.ids_of_build_builtin hbuild, fun r hr => ?_⟩
  obtain ⟨b, c, hc, rfl⟩ := Registry.exists_builtin_of_mem hbuild hr
  exact b.internalError_run_rule_iff (RuleConfig.within_of_config hc) (hintegers _ hr) hf

theorem Constants.hasWritableIntegers_defaults
    (m : ConfigModel) :
    HasWritableIntegers m.constants (defaults m.constants) := by
  have hall : ∀ e ∈ toEntries m.constants (defaults m.constants),
      ∀ n ∈ (Scalar.readInt e.2).toOption, n.natAbs ≤ Duration.maxSeconds := by
    cases m <;> decide
  intro e he n hn
  exact isWritable_of_le_maxSeconds (hall e he n (by rw [hn]; rfl))

/-- With a ratio of `2E+999999` and five units of pending withdrawals the coverage of withdrawals
breaks down, and no other rule does. -/
theorem internalError_run_iff_of_large_ratio :
    let policy : Policy :=
      { rules := [("withdrawal.liquidity",
          [("minimum_coverage_ratio", .decimal (.finite ⟨false, 2, 999999⟩))])] }
    let f : Facts :=
      { chainId := "10"
        observedAt := ⟨0, by decide⟩
        withdrawal := some { liquidity := some .one, pendingTotal := some ⟨false, 5, 0⟩ } }
    ∃ g, Registry.build policy = .ok g ∧
      ∀ r ∈ g.rules, (r.run f).internalError = true ↔ r.id = "withdrawal.liquidity" := by
  intro policy f
  have hbuilt : (Registry.build policy).toOption.isSome = true := by decide +kernel
  cases hbuild : Registry.build policy with
  | error e =>
    rw [hbuild] at hbuilt
    cases hbuilt
  | ok g =>
    have hintegers : ∀ r ∈ g.rules,
        Constants.HasWritableIntegers r.model.constants r.config.values := by
      intro r hr
      obtain ⟨b, c, hc, rfl⟩ := Registry.exists_builtin_of_mem hbuild hr
      by_cases hb : b = .withdrawalLiquidity
      · subst hb
        cases hc
        rintro _ (_ | ⟨_, ⟨⟩⟩) n ⟨⟩
      · have hnone : policy.ruleEntry b.id = none := by
          cases b <;> first | rfl | exact absurd rfl hb
        rw [Policy.config, hnone] at hc
        cases hc
        exact Constants.hasWritableIntegers_defaults b.model
    have hreference := Facts.isWritable_toJson_iff.mp (by decide +kernel : f.toJson.isWritable = true)
    have hiff := (internalError_run_iff_of_build hbuild hintegers hreference).2
    refine ⟨g, rfl, fun r hr => (hiff r hr).trans ⟨fun h => h.1, fun hid => ?_⟩⟩
    obtain ⟨b, c, hc, rfl⟩ := Registry.exists_builtin_of_mem hbuild hr
    obtain rfl : b = .withdrawalLiquidity := Builtin.id_injective hid
    cases hc
    exact ⟨rfl, rfl, ⟨false, 2, 999999⟩, .head _, _, _, _, rfl, rfl, rfl, by decide, by decide⟩

end RollupAudit
