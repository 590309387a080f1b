import RollupAudit.Proofs.Facts.Overrides
import RollupAudit.Proofs.Facts.RoundTrip
import RollupAudit.Proofs.Number.DecimalRounding
import RollupAudit.Proofs.Rule.Totality

/-!
# The coverage of withdrawals

The liquidity is compared with the product of the pending withdrawals and the ratio that the policy
sets. The comparison is exact, but the product is rounded to 28 digits: it can fall short of the
exact one or exceed it by half a unit of its last place, and then so does the sum that is required.

**Results.**
* `Builtin.run_withdrawalLiquidity`: the rule compares the liquidity with the rounded product, which
  decides as the exact one does unless the liquidity is within half a unit of its last place.
-/

namespace RollupAudit

/-- That an outcome tells whether a sum that is available covers one that is required: it fails if
the sum is less, and passes otherwise. -/
structure Outcome.TellsCoverage (o : Outcome) (available required : ℚ) : Prop where
  fail_iff : o.status = .fail ↔ available < required
  pass_iff : o.status = .pass ↔ required ≤ available

section Coverage

variable {f : Facts} {liquidity pending required : Decimal} {o : Outcome} {p q r : ℚ}

/-- Required sums that lie on one side of what is available are told alike. -/
theorem Outcome.TellsCoverage.congr
    (h : o.TellsCoverage p q)
    (hsame : p < q ↔ p < r) :
    o.TellsCoverage p r :=
  ⟨h.fail_iff.trans hsame, h.pass_iff.trans (by rw [← not_lt, hsame, not_lt])⟩

/-- Without an overflow the check compares the liquidity with the product. -/
theorem Check.withdrawalLiquidity_spec
    {ratio : Decimal}
    (hliquidity : f.withdrawal.bind WithdrawalFacts.liquidity = some liquidity)
    (hpending : f.withdrawal.bind WithdrawalFacts.pendingTotal = some pending)
    (hrequired : pending.mul? ratio = some required) :
    ∃ o, withdrawalLiquidity ratio f = .ok o ∧ o.TellsCoverage liquidity.value required.value := by
  simp only [withdrawalLiquidity, hliquidity, hpending, hrequired, Decimal.compare_eq_lt_iff]
  by_cases hshort : liquidity.value < required.value
  · rw [if_pos hshort]
    exact ⟨_, rfl, by simp [Outcome.fail, hshort], by simp [Outcome.fail, hshort]⟩
  · rw [if_neg hshort]
    exact ⟨_, rfl, by simp [Outcome.passed, hshort], by simpa [Outcome.passed] using hshort⟩

/-- The pending withdrawals of a snapshot that is reached are not negative. -/
theorem Facts.IsReachable.isAmount_pendingTotal
    (hf : f.IsReachable)
    (h : f.withdrawal.bind WithdrawalFacts.pendingTotal = some pending) :
    pending.IsAmount := by
  obtain ⟨w, hw, hp⟩ := Option.bind_eq_some_iff.mp h
  exact ((isNormal_of_ofValue hf.ofValue_toValue).withdrawal w hw).pendingTotal pending hp

theorem RuleConfig.isAmount_coverageRatio
    {policy : Policy} {id : String} {c : RuleConfig Builtin.withdrawalLiquidity.model}
    (hc : policy.config id Builtin.withdrawalLiquidity.model = .ok c) :
    c.coverageRatio.IsAmount :=
  (within_of_config hc).1

end Coverage

open Decimal

/-- Where both amounts are known and their product does not overflow, the rule compares the liquidity
with the rounded product. It compares exactly if the product has few enough digits to be held, and
for every other product if the liquidity is not within half a unit of its last place. -/
theorem Builtin.run_withdrawalLiquidity
    {policy : Policy} {c : RuleConfig withdrawalLiquidity.model}
    (hc : policy.config withdrawalLiquidity.id withdrawalLiquidity.model = .ok c)
    (henabled : c.enabled = true)
    {f : Facts}
    (hf : f.IsReachable)
    {liquidity pending : Decimal}
    (hliquidity : f.withdrawal.bind WithdrawalFacts.liquidity = some liquidity)
    (hpending : f.withdrawal.bind WithdrawalFacts.pendingTotal = some pending)
    (hfits : pending.mul? c.coverageRatio ≠ none) :
    let o := (withdrawalLiquidity.rule c).run f
    let product := pending.value * c.coverageRatio.value
    o.TellsCoverage liquidity.value (rounded product) ∧
      (∀ (digits : Nat) (e : Int), digits < 10 ^ precision → leastPower ≤ e →
        product = digits * 10 ^ e → o.TellsCoverage liquidity.value product) ∧
      (10 ^ lastPlace product / 2 < |liquidity.value - product| →
        o.TellsCoverage liquidity.value product) := by
  intro o product
  obtain ⟨required, hrequired⟩ := Option.ne_none_iff_exists'.mp hfits
  have hvalue : required.value = rounded product :=
    mul?_spec (hf.isAmount_pendingTotal hpending) (RuleConfig.isAmount_coverageRatio hc) hrequired
  have hrounded : o.TellsCoverage liquidity.value (rounded product) := by
    obtain ⟨o', hcheck, htells⟩ := Check.withdrawalLiquidity_spec hliquidity hpending hrequired
    have ho : o = o' := run_rule_eq henabled hcheck
    rwa [ho, ← hvalue]
  refine ⟨hrounded, ?_, ?_⟩
  · intro digits e hdigits he hproduct
    rwa [rounded_eq_self hdigits he hproduct] at hrounded
  · intro hfar
    have hnear := abs_le.mp (abs_rounded_sub_le product)
    refine hrounded.congr ?_
    -- The rounded product lies on the same side of the liquidity as the exact one.
    rcases lt_abs.mp hfar with habove | hbelow
    · exact iff_of_false (by linarith) (by linarith)
    · exact iff_of_true (by linarith) (by linarith)

/-! ## Amounts of 29 digits -/

/-- A chain with known liquidity and pending withdrawals. -/
def Facts.coveredChain (liquidity pending : Decimal) : Facts :=
  { bareChain with
    withdrawal := some { liquidity := some liquidity, pendingTotal := some pending } }

theorem Facts.isReachable_coveredChain
    {liquidity pending : Decimal}
    (hliquidity : liquidity.IsAmount ∧ liquidity.inRange = true)
    (hpending : pending.IsAmount ∧ pending.inRange = true) :
    (coveredChain liquidity pending).IsReachable := by
  have hnormal : WithdrawalFacts.IsNormal
      { liquidity := some liquidity, pendingTotal := some pending } := by
    constructor
    · rintro _ ⟨⟩
      exact hliquidity.1
    · rintro _ ⟨⟩
      exact hpending.1
  have hheld : WithdrawalFacts.HasHeldAmounts
      { liquidity := some liquidity, pendingTotal := some pending } := by
    constructor
    · rintro _ ⟨⟩
      exact hliquidity.2
    · rintro _ ⟨⟩
      exact hpending.2
  exact .takesSection isReachable_bareChain
    (.withdrawal (Reading.readsBack_withdrawal hnormal hheld).read_eq)

/-- What the policy without entries sets for the coverage of withdrawals. -/
def Policy.defaultCoverage : RuleConfig Builtin.withdrawalLiquidity.model := RuleConfig.default _

theorem Policy.config_defaultCoverage :
    Policy.config {} Builtin.withdrawalLiquidity.id Builtin.withdrawalLiquidity.model =
      .ok defaultCoverage :=
  rfl

theorem Policy.coverageRatio_defaultCoverage : defaultCoverage.coverageRatio.value = 1 := by
  have hone : defaultCoverage.coverageRatio = Decimal.one := rfl
  simp [hone, value, signed, Decimal.one, ofInt]

open Policy Facts

/-- A liquidity of 29 digits that lies between the exact and the rounded product is short of what is
pending, and yet it covers it. -/
theorem Builtin.run_withdrawalLiquidity_short :
    let liquidity : Decimal := ⟨false, 10000000000000000000000000000, 0⟩
    let pending : Decimal := ⟨false, 10000000000000000000000000001, 0⟩
    let product := pending.value * defaultCoverage.coverageRatio.value
    liquidity.value < product ∧
      ((withdrawalLiquidity.rule defaultCoverage).run (coveredChain liquidity pending)).status = .pass ∧
        rounded product ≤ liquidity.value := by
  intro liquidity pending product
  have hreachable : (coveredChain liquidity pending).IsReachable :=
    isReachable_coveredChain ⟨rfl, by decide +kernel⟩ ⟨rfl, by decide +kernel⟩
  have hfits : pending.mul? defaultCoverage.coverageRatio ≠ none := by decide +kernel
  obtain ⟨htells, -⟩ := run_withdrawalLiquidity config_defaultCoverage rfl hreachable rfl rfl hfits
  have hpass : ((withdrawalLiquidity.rule defaultCoverage).run
      (coveredChain liquidity pending)).status = .pass := by decide +kernel
  refine ⟨?_, hpass, htells.pass_iff.mp hpass⟩
  simp only [product, coverageRatio_defaultCoverage, mul_one]
  exact compare_eq_lt_iff.mp (by decide +kernel)

/-- An amount of 29 digits does not cover itself, and one that is short of another covers it. -/
theorem Builtin.run_withdrawalLiquidity_inexact :
    let rule := withdrawalLiquidity.rule defaultCoverage
    let least : Decimal := ⟨false, 10000000000000000000000000000, 0⟩
    let more : Decimal := ⟨false, 10000000000000000000000000001, 0⟩
    let most : Decimal := ⟨false, 10000000000000000000000000006, 0⟩
    defaultCoverage.coverageRatio.value = 1 ∧
      ((coveredChain least more).IsReachable ∧ more.mul? defaultCoverage.coverageRatio ≠ none ∧
        least.value < more.value ∧ (rule.run (coveredChain least more)).status = .pass) ∧
      ((coveredChain most most).IsReachable ∧ most.mul? defaultCoverage.coverageRatio ≠ none ∧
        (rule.run (coveredChain most most)).status = .fail) := by
  intro rule least more most
  have hleast : least.IsAmount ∧ least.inRange = true := ⟨rfl, by decide +kernel⟩
  have hmore : more.IsAmount ∧ more.inRange = true := ⟨rfl, by decide +kernel⟩
  have hmost : most.IsAmount ∧ most.inRange = true := ⟨rfl, by decide +kernel⟩
  refine ⟨coverageRatio_defaultCoverage, ?_, ?_⟩
  · exact ⟨isReachable_coveredChain hleast hmore, by decide +kernel,
      compare_eq_lt_iff.mp (by decide +kernel), by decide +kernel⟩
  · exact ⟨isReachable_coveredChain hmost hmost, by decide +kernel, by decide +kernel⟩

end RollupAudit
