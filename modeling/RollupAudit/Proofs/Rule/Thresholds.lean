import RollupAudit.Proofs.Rule.Coverage
import RollupAudit.Proofs.Rule.Timing

/-!
# Rules with thresholds

Nine rules compare what they measure with a threshold, or two measures with each other. If a
deployment gets safer or a policy laxer, such a rule that passed still passes. The rule about the
exit window has three grades, which are told by where the delay lies between two thresholds; that
they are in order is checked when the policy is.

**Results.**
* `RuleConfig.conflict?_of_config`: what an accepted policy sets for a rule goes together.
* `Check.exitWindow_spec`: the grades of the exit window.
* `Builtin.run_eases`: a rule that passed still passes when its measures and thresholds ease, and the
  exit window is graded no worse.
-/

namespace RollupAudit

/-! ## Checks that pass -/

/-- That a check comes to an outcome, and passes. -/
def CheckResult.Passes (r : CheckResult) : Prop := ∃ o, r = .ok o ∧ o.status = .pass

section Passing

variable {α : Type} {o : Outcome} {x : Except CheckFault α} {g : α → CheckResult} {f : Facts}

theorem passes_ok_iff : CheckResult.Passes (.ok o) ↔ o.status = .pass := by
  constructor
  · rintro ⟨_, ⟨⟩, h⟩
    exact h
  · exact fun h => ⟨o, rfl, h⟩

theorem passes_bind_iff : CheckResult.Passes (x >>= g) ↔ ∃ a, x = .ok a ∧ (g a).Passes := by
  cases x with
  | ok a => exact ⟨fun h => ⟨a, rfl, h⟩, by rintro ⟨_, ⟨⟩, h⟩; exact h⟩
  | error e => exact ⟨by rintro ⟨_, ⟨⟩, -⟩, by rintro ⟨_, ⟨⟩, -⟩⟩

/-- Where all that a check can still come to is a failure, it does not pass. -/
theorem not_passes_bind
    (h : ∀ a, ¬ (g a).Passes) :
    ¬ CheckResult.Passes (x >>= g) := by
  rw [passes_bind_iff]
  rintro ⟨a, -, ha⟩
  exact h a ha

theorem not_passes_fail (detail : String) : ¬ CheckResult.Passes (.ok (.fail detail)) :=
  fun h => by cases passes_ok_iff.mp h

/-- A check that passes unless something holds, in which case it does not. -/
theorem passes_ite_iff
    {p : Prop} [Decidable p] {failing : CheckResult}
    (hfailing : ¬ failing.Passes)
    (ho : o.status = .pass) :
    CheckResult.Passes (if p then failing else .ok o) ↔ ¬ p := by
  by_cases hp : p
  · rw [if_pos hp]
    exact iff_of_false hfailing (not_not_intro hp)
  · rw [if_neg hp]
    exact iff_of_true (passes_ok_iff.mpr ho) hp

/-- A rule passes exactly if it is enabled and its check does. -/
theorem Builtin.run_rule_passes_iff
    {b : Builtin} {c : RuleConfig b.model} :
    ((b.rule c).run f).status = .pass ↔ c.enabled = true ∧ (b.check c.values f).Passes := by
  cases henabled : c.enabled with
  | false =>
    have hrun : (b.rule c).run f = Rule.disabledOutcome := Rule.run_of_enabled_eq_false henabled f
    rw [hrun]
    exact iff_of_false (by rintro ⟨⟩) (by simp)
  | true =>
    rw [run_rule_of_enabled henabled]
    cases b.check c.values f with
    | ok o => exact ⟨fun h => ⟨rfl, o, rfl, h⟩, by rintro ⟨-, _, ⟨⟩, h⟩; exact h⟩
    | error fault =>
      obtain ⟨text, htext⟩ := Attempt.exists_conclusion_ofCheck_error fault
      rw [Attempt.outcome, htext]
      exact iff_of_false (by rintro ⟨⟩) (by rintro ⟨-, _, ⟨⟩, -⟩)

end Passing

namespace Check

variable {f : Facts} {measured other : Nat}

theorem withdrawalDelay_passes_iff
    {maximum : Nat}
    (h : f.withdrawal.bind WithdrawalFacts.delaySeconds = some measured) :
    (withdrawalDelay maximum f).Passes ↔ measured ≤ maximum := by
  simp only [withdrawalDelay, h]
  refine (passes_ite_iff ?_ rfl).trans not_lt
  exact not_passes_bind fun _ => not_passes_bind fun _ => not_passes_fail _

theorem oracleFreshnessBound_passes_iff
    {maximum : Nat}
    (h : f.oracle.bind OracleFacts.freshnessBoundSeconds = some measured) :
    (oracleFreshnessBound maximum f).Passes ↔ measured ≤ maximum := by
  obtain ⟨oracle, horacle, hmeasured⟩ := Option.bind_eq_some_iff.mp h
  simp only [oracleFreshnessBound, horacle, hmeasured]
  refine (passes_ite_iff ?_ rfl).trans not_lt
  exact not_passes_bind fun _ => not_passes_bind fun _ => not_passes_fail _

theorem exitWindowCoversWithdrawal_passes_iff
    (hupgrade : f.upgrade.bind UpgradeFacts.delaySeconds = some measured)
    (hwithdrawal : f.withdrawal.bind WithdrawalFacts.delaySeconds = some other) :
    (exitWindowCoversWithdrawal f).Passes ↔ other ≤ measured := by
  simp only [exitWindowCoversWithdrawal, hupgrade, hwithdrawal]
  refine (passes_ite_iff ?_ rfl).trans not_lt
  exact not_passes_bind fun _ => not_passes_bind fun _ => not_passes_fail _

end Check

/-! ## The exit window -/

/-- That an outcome tells how long a delay is between two thresholds. -/
structure Outcome.TellsExitWindow (o : Outcome) (delay minimum critical : Nat) : Prop where
  critical_iff : o.status = .fail ∧ o.severity = some .critical ↔ delay < critical
  high_iff : o.status = .fail ∧ o.severity = some .high ↔ critical ≤ delay ∧ delay < minimum
  pass_iff : o.status = .pass ↔ minimum ≤ delay

/-- How bad an outcome of the exit window is: it passes, fails with high or with critical severity. -/
def Outcome.exitGrade (o : Outcome) : Nat :=
  if o.status = .pass then 0 else if o.severity = some .critical then 2 else 1

/-- A longer delay and lower thresholds make the grade no worse. -/
theorem Outcome.TellsExitWindow.exitGrade_le
    {o o' : Outcome} {delay delay' minimum minimum' critical critical' : Nat}
    (h : o.TellsExitWindow delay minimum critical)
    (h' : o'.TellsExitWindow delay' minimum' critical')
    (hdelay : delay ≤ delay')
    (hminimum : minimum' ≤ minimum)
    (hcritical : critical' ≤ critical) :
    o'.exitGrade ≤ o.exitGrade := by
  unfold exitGrade
  by_cases hpass' : o'.status = .pass
  · rw [if_pos hpass']
    exact Nat.zero_le _
  · have hpass : o.status ≠ .pass := by
      rw [ne_eq, h.pass_iff]
      rw [h'.pass_iff] at hpass'
      omega
    rw [if_neg hpass', if_neg hpass]
    by_cases hlong : critical' ≤ delay'
    · have hhigh := h'.high_iff.mpr ⟨hlong, not_le.mp (mt h'.pass_iff.mpr hpass')⟩
      rw [if_neg (by simp [hhigh.2])]
      split <;> omega
    · have hworst := h.critical_iff.mpr (by omega)
      rw [if_pos hworst.2]
      split <;> omega

namespace Check

variable {f : Facts} {delay minimum critical : Nat}

/-- With thresholds in order, the exit window takes each of its grades exactly where the delay says. -/
theorem exitWindow_spec
    (hdelay : f.upgrade.bind UpgradeFacts.delaySeconds = some delay)
    (hwritable : Text.isWritable (delay : Nat) = true)
    (hminimum : minimum ≤ Duration.maxSeconds)
    (horder : critical ≤ minimum) :
    ∃ o, exitWindow minimum critical f = .ok o ∧ o.TellsExitWindow delay minimum critical := by
  obtain ⟨shown, hshown⟩ := exists_shownSeconds hwritable
  obtain ⟨least, hleast⟩ := exists_shownSeconds (isWritable_of_le_maxSeconds hminimum)
  simp only [exitWindow, hdelay, hshown, hleast]
  by_cases hlong : minimum ≤ delay
  · refine ⟨_, if_pos hlong, ?_⟩
    exact {
      critical_iff := iff_of_false (by simp [Outcome.passed]) (by omega)
      high_iff := iff_of_false (by simp [Outcome.passed]) (by omega)
      pass_iff := iff_of_true rfl hlong }
  · refine ⟨.fail _ (some (if delay < critical then .critical else .high)), if_neg hlong, ?_⟩
    by_cases hcritical : delay < critical
    · rw [if_pos hcritical]
      exact {
        critical_iff := iff_of_true ⟨rfl, rfl⟩ hcritical
        high_iff := iff_of_false (by simp [Outcome.fail]) (by omega)
        pass_iff := iff_of_false (by rintro ⟨⟩) hlong }
    · rw [if_neg hcritical]
      exact {
        critical_iff := iff_of_false (by simp [Outcome.fail]) hcritical
        high_iff := iff_of_true ⟨rfl, rfl⟩ (by omega)
        pass_iff := iff_of_false (by rintro ⟨⟩) hlong }

end Check

/-- What an accepted policy sets for a rule goes together. -/
theorem RuleConfig.conflict?_of_config
    {policy : Policy} {id : String} {m : ConfigModel} {c : RuleConfig m}
    (h : policy.config id m = .ok c) :
    m.conflict? c.values = none := by
  unfold Policy.config at h
  split at h
  · cases h
    cases m <;> rfl
  · split at h
    · rename_i haccepted
      cases h
      obtain ⟨c', -, hconsistent⟩ := Checked.andThen_eq_accepted_iff.mp haccepted
      unfold consistent at hconsistent
      split at hconsistent
      · cases hconsistent
      · cases hconsistent
        assumption
    · cases h

/-! ## The coverage of withdrawals -/

section Coverage

open Decimal

variable {f : Facts} {liquidity pending ratio : Decimal}

/-- The coverage check passes exactly if the rounded product is in range and not above the liquidity. -/
theorem Check.withdrawalLiquidity_passes_iff
    (hliquidity : f.withdrawal.bind WithdrawalFacts.liquidity = some liquidity)
    (hpending : f.withdrawal.bind WithdrawalFacts.pendingTotal = some pending)
    (hamount : pending.IsAmount)
    (hratio : ratio.IsAmount) :
    (withdrawalLiquidity ratio f).Passes ↔
      rounded (pending.value * ratio.value) < 10 ^ (greatestPower + 1) ∧
        rounded (pending.value * ratio.value) ≤ liquidity.value := by
  have hoverflow := mul?_eq_none_iff_rounded hamount hratio
  cases hrequired : pending.mul? ratio with
  | none =>
    have hfault : withdrawalLiquidity ratio f = .error .overflow := by
      simp only [withdrawalLiquidity, hliquidity, hpending, hrequired]
    rw [hfault]
    refine iff_of_false ?_ fun h => (hoverflow.mp hrequired).not_gt h.1
    rintro ⟨_, ⟨⟩, -⟩
  | some required =>
    obtain ⟨o, ho, htells⟩ := withdrawalLiquidity_spec hliquidity hpending hrequired
    have hfits : rounded (pending.value * ratio.value) < 10 ^ (greatestPower + 1) := by
      rw [← not_le, ← hoverflow, hrequired]
      rintro ⟨⟩
    rw [ho, passes_ok_iff, htells.pass_iff, mul?_spec hamount hratio hrequired]
    exact (and_iff_right hfits).symm

end Coverage

/-! ## Safer deployments and laxer policies -/

/-- That two values are known and stand in a relation. -/
def KnownWith {α : Type} (r : α → α → Prop) (x y : Option α) : Prop :=
  ∃ a b, x = some a ∧ y = some b ∧ r a b

/-- That a recorded instant is no older than another one, though not ahead of the observation, and is
under a bound that is no lower. -/
def AgeRule.Eases (r : AgeRule) (bound : Nat) (f : Facts) (bound' : Nat) (f' : Facts) : Prop :=
  bound ≤ bound' ∧
    KnownWith
      (fun recorded recorded' =>
        (0 : Int) ≤ f'.observedAt.micros - recorded'.micros ∧
          (f'.observedAt.micros - recorded'.micros : Int) ≤ f.observedAt.micros - recorded.micros)
      (r.recorded? f) (r.recorded? f')

/-- That a pending upgrade leaves no less time than another one, and no more notice is required. -/
def ActivationEases (notice : Nat) (f : Facts) (notice' : Nat) (f' : Facts) : Prop :=
  notice' ≤ notice ∧
    ∃ pending scheduled pending' scheduled',
      f.AwaitsUpgrade pending scheduled ∧ f'.AwaitsUpgrade pending' scheduled' ∧
        (scheduled.micros - f.observedAt.micros : Int) ≤ scheduled'.micros - f'.observedAt.micros

namespace Builtin

/-- That what a rule measures in the second facts is at least as safe as in the first, and what the
second policy demands of it is no more. -/
def Eases : (b : Builtin) → b.model.Values → Facts → b.model.Values → Facts → Prop
  | .exitWindow, ((minimum : Nat), (critical : Nat), _), f,
      ((minimum' : Nat), (critical' : Nat), _), f' =>
    minimum' ≤ minimum ∧ critical' ≤ critical ∧
      KnownWith (· ≤ ·) (f.upgrade.bind UpgradeFacts.delaySeconds)
        (f'.upgrade.bind UpgradeFacts.delaySeconds)
  | .exitWindowCoversWithdrawal, _, f, _, f' =>
    KnownWith (· ≤ ·) (f.upgrade.bind UpgradeFacts.delaySeconds)
        (f'.upgrade.bind UpgradeFacts.delaySeconds) ∧
      KnownWith (· ≥ ·) (f.withdrawal.bind WithdrawalFacts.delaySeconds)
        (f'.withdrawal.bind WithdrawalFacts.delaySeconds)
  | .withdrawalDelay, ((maximum : Nat), _), f, ((maximum' : Nat), _), f' =>
    maximum ≤ maximum' ∧
      KnownWith (· ≥ ·) (f.withdrawal.bind WithdrawalFacts.delaySeconds)
        (f'.withdrawal.bind WithdrawalFacts.delaySeconds)
  | .oracleFreshnessBound, ((maximum : Nat), _), f, ((maximum' : Nat), _), f' =>
    maximum ≤ maximum' ∧
      KnownWith (· ≥ ·) (f.oracle.bind OracleFacts.freshnessBoundSeconds)
        (f'.oracle.bind OracleFacts.freshnessBoundSeconds)
  | .anchorFreshness, ((bound : Nat), _), f, ((bound' : Nat), _), f' =>
    AgeRule.anchor.Eases bound f bound' f'
  | .sequencerLiveness, ((bound : Nat), _), f, ((bound' : Nat), _), f' =>
    AgeRule.sequencer.Eases bound f bound' f'
  | .proposerLiveness, ((bound : Nat), _), f, ((bound' : Nat), _), f' =>
    AgeRule.proposer.Eases bound f bound' f'
  | .pendingActivation, ((notice : Nat), _), f, ((notice' : Nat), _), f' =>
    ActivationEases notice f notice' f'
  | .withdrawalLiquidity, ((ratio : Decimal), _), f, ((ratio' : Decimal), _), f' =>
    ratio'.value ≤ ratio.value ∧
      KnownWith (fun x y => x.value ≤ y.value) (f.withdrawal.bind WithdrawalFacts.liquidity)
        (f'.withdrawal.bind WithdrawalFacts.liquidity) ∧
      KnownWith (fun x y => x.value ≥ y.value) (f.withdrawal.bind WithdrawalFacts.pendingTotal)
        (f'.withdrawal.bind WithdrawalFacts.pendingTotal)
  | _, _, _, _, _ => False

end Builtin

section Runs

variable {policy policy' : Policy} {f f' : Facts}

theorem microsOf_mono
    {m n : Nat}
    (h : m ≤ n) :
    microsOf m ≤ microsOf n :=
  Int.mul_le_mul_of_nonneg_right (Int.ofNat_le.mpr h) (Int.natCast_nonneg _)

theorem AgeRule.run_passes_of_eases
    (r : AgeRule)
    {c c' : RuleConfig r.builtin.model}
    (hwithin : Constants.Within r.builtin.model.constants c.values)
    (hwithin' : Constants.Within r.builtin.model.constants c'.values)
    (henabled : c.enabled = true)
    (henabled' : c'.enabled = true)
    (heases : r.Eases (r.bound c.values) f (r.bound c'.values) f')
    (hpass : ((r.builtin.rule c).run f).status = .pass) :
    ((r.builtin.rule c').run f').status = .pass := by
  obtain ⟨hbound, recorded, recorded', hrecorded, hrecorded', hpast, hage⟩ := heases
  rw [(r.tellsAge_run hwithin henabled hrecorded).pass_iff] at hpass
  rw [(r.tellsAge_run hwithin' henabled' hrecorded').pass_iff]
  have hmicros := microsOf_mono hbound
  omega

theorem Builtin.run_pendingActivation_eases
    {c c' : RuleConfig pendingActivation.model}
    (hwithin : Constants.Within pendingActivation.model.constants c.values)
    (hwithin' : Constants.Within pendingActivation.model.constants c'.values)
    (henabled : c.enabled = true)
    (henabled' : c'.enabled = true)
    (heases : ActivationEases c.notice f c'.notice f')
    (hpass : ((pendingActivation.rule c).run f).status = .pass) :
    ((pendingActivation.rule c').run f').status = .pass := by
  obtain ⟨hnotice, pending, scheduled, pending', scheduled', hawaits, hawaits', hremaining⟩ := heases
  rw [(tellsActivation_run hwithin henabled hawaits).pass_iff] at hpass
  rw [(tellsActivation_run hwithin' henabled' hawaits').pass_iff]
  have hmicros := microsOf_mono hnotice
  omega

/-- The least upgrade delay that the policy accepts, in seconds. -/
def RuleConfig.minimumDelay : RuleConfig Builtin.exitWindow.model → Nat
  | ⟨_, _, ((minimum : Nat), _)⟩ => minimum

/-- The upgrade delay below which the policy has it fail as critical, in seconds. -/
def RuleConfig.criticalBelow : RuleConfig Builtin.exitWindow.model → Nat
  | ⟨_, _, (_, (critical : Nat), _)⟩ => critical

/-- An accepted policy has the thresholds of the exit window in order. -/
theorem RuleConfig.criticalBelow_le_minimumDelay
    {c : RuleConfig Builtin.exitWindow.model}
    (hc : policy.config Builtin.exitWindow.id Builtin.exitWindow.model = .ok c) :
    c.criticalBelow ≤ c.minimumDelay := by
  have hconflict : (if c.minimumDelay < c.criticalBelow then
      some "critical_below_seconds must not exceed minimum_delay_seconds" else none) = none :=
    conflict?_of_config hc
  by_contra hlt
  rw [if_pos (by omega)] at hconflict
  cases hconflict

theorem Builtin.tellsExitWindow_run
    {c : RuleConfig exitWindow.model} {delay : Nat}
    (hc : policy.config exitWindow.id exitWindow.model = .ok c)
    (henabled : c.enabled = true)
    (hintegers : f.HasWritableIntegers)
    (hdelay : f.upgrade.bind UpgradeFacts.delaySeconds = some delay) :
    ((exitWindow.rule c).run f).TellsExitWindow delay c.minimumDelay c.criticalBelow := by
  have hminimum : c.minimumDelay ≤ Duration.maxSeconds := (RuleConfig.within_of_config hc).1
  obtain ⟨o, ho, htells⟩ := Check.exitWindow_spec hdelay (hintegers.upgradeDelay delay hdelay) hminimum
    (RuleConfig.criticalBelow_le_minimumDelay hc)
  have hcheck : exitWindow.check c.values f = .ok o := ho
  rwa [run_rule_eq henabled hcheck]

/-- An exit window that eases is graded no worse. -/
theorem Builtin.exitGrade_run_le
    {c c' : RuleConfig exitWindow.model}
    (hc : policy.config exitWindow.id exitWindow.model = .ok c)
    (hc' : policy'.config exitWindow.id exitWindow.model = .ok c')
    (hswitch : c'.enabled = c.enabled)
    (hintegers : f.HasWritableIntegers)
    (hintegers' : f'.HasWritableIntegers)
    (heases : exitWindow.Eases c.values f c'.values f') :
    ((exitWindow.rule c').run f').exitGrade ≤ ((exitWindow.rule c).run f).exitGrade := by
  obtain ⟨hminimum, hcritical, delay, delay', hdelay, hdelay', hle⟩ := heases
  cases henabled : c.enabled with
  | true =>
    have htells := tellsExitWindow_run hc henabled hintegers hdelay
    have htells' := tellsExitWindow_run hc' (hswitch.trans henabled) hintegers' hdelay'
    exact htells.exitGrade_le htells' hle hminimum hcritical
  | false =>
    have hrun : (exitWindow.rule c).run f = Rule.disabledOutcome :=
      Rule.run_of_enabled_eq_false henabled f
    have hrun' : (exitWindow.rule c').run f' = Rule.disabledOutcome :=
      Rule.run_of_enabled_eq_false (hswitch.trans henabled) f'
    rw [hrun, hrun']

/-- A rule that passes still passes when its measures and thresholds ease. -/
theorem Builtin.run_passes_of_eases
    (b : Builtin)
    {c c' : RuleConfig b.model}
    (hc : policy.config b.id b.model = .ok c)
    (hc' : policy'.config b.id b.model = .ok c')
    (hswitch : c'.enabled = c.enabled)
    (hf : f.IsReachable)
    (hf' : f'.IsReachable)
    (hintegers : f.HasWritableIntegers)
    (hintegers' : f'.HasWritableIntegers)
    (heases : b.Eases c.values f c'.values f')
    (hpass : ((b.rule c).run f).status = .pass) :
    ((b.rule c').run f').status = .pass := by
  have hwithin := RuleConfig.within_of_config hc
  have hwithin' := RuleConfig.within_of_config hc'
  obtain ⟨henabled, hcheck⟩ := run_rule_passes_iff.mp hpass
  have henabled' := hswitch.trans henabled
  cases b with
  | anchorFreshness =>
    exact AgeRule.anchor.run_passes_of_eases hwithin hwithin' henabled henabled' heases hpass
  | sequencerLiveness =>
    exact AgeRule.sequencer.run_passes_of_eases hwithin hwithin' henabled henabled' heases hpass
  | proposerLiveness =>
    exact AgeRule.proposer.run_passes_of_eases hwithin hwithin' henabled henabled' heases hpass
  | pendingActivation =>
    exact run_pendingActivation_eases hwithin hwithin' henabled henabled' heases hpass
  | exitWindow =>
    obtain ⟨hminimum, hcritical, delay, delay', hdelay, hdelay', hle⟩ := heases
    rw [(tellsExitWindow_run hc henabled hintegers hdelay).pass_iff] at hpass
    rw [(tellsExitWindow_run hc' henabled' hintegers' hdelay').pass_iff]
    exact hminimum.trans (hpass.trans hle)
  | exitWindowCoversWithdrawal =>
    obtain ⟨⟨upgrade, upgrade', hupgrade, hupgrade', hlonger⟩,
      withdrawal, withdrawal', hwithdrawal, hwithdrawal', hshorter⟩ := heases
    have hcovers := (Check.exitWindowCoversWithdrawal_passes_iff hupgrade hwithdrawal).mp hcheck
    refine run_rule_passes_iff.mpr ⟨henabled', ?_⟩
    exact (Check.exitWindowCoversWithdrawal_passes_iff hupgrade' hwithdrawal').mpr
      (hshorter.trans (hcovers.trans hlonger))
  | withdrawalDelay =>
    obtain ⟨hmaximum, delay, delay', hdelay, hdelay', hshorter⟩ := heases
    have hle := (Check.withdrawalDelay_passes_iff hdelay).mp hcheck
    refine run_rule_passes_iff.mpr ⟨henabled', ?_⟩
    exact (Check.withdrawalDelay_passes_iff hdelay').mpr (hshorter.trans (hle.trans hmaximum))
  | oracleFreshnessBound =>
    obtain ⟨hmaximum, bound, bound', hbound, hbound', hshorter⟩ := heases
    have hle := (Check.oracleFreshnessBound_passes_iff hbound).mp hcheck
    refine run_rule_passes_iff.mpr ⟨henabled', ?_⟩
    exact (Check.oracleFreshnessBound_passes_iff hbound').mpr (hshorter.trans (hle.trans hmaximum))
  | withdrawalLiquidity =>
    obtain ⟨hratio, ⟨liquidity, liquidity', hliquidity, hliquidity', hmore⟩,
      pending, pending', hpending, hpending', hless⟩ := heases
    have hamount := hf.isAmount_pendingTotal hpending
    have hamount' := hf'.isAmount_pendingTotal hpending'
    have hcovered := (Check.withdrawalLiquidity_passes_iff hliquidity hpending hamount
      (RuleConfig.isAmount_coverageRatio hc)).mp hcheck
    have hproduct : Decimal.rounded (pending'.value * c'.coverageRatio.value) ≤
        Decimal.rounded (pending.value * c.coverageRatio.value) := by
      have hratio' := (RuleConfig.isAmount_coverageRatio hc').value_nonneg
      refine Decimal.rounded_mono (mul_nonneg hamount'.value_nonneg hratio') ?_
      exact mul_le_mul hless hratio hratio' hamount.value_nonneg
    refine run_rule_passes_iff.mpr ⟨henabled', ?_⟩
    refine (Check.withdrawalLiquidity_passes_iff hliquidity' hpending' hamount'
      (RuleConfig.isAmount_coverageRatio hc')).mpr ⟨hproduct.trans_lt hcovered.1, ?_⟩
    exact hproduct.trans (hcovered.2.trans hmore)
  | _ => exact False.elim heases

end Runs

/-- If the deployment gets safer or the policy laxer, a rule with a threshold that passed still passes,
and the exit window is graded no worse. An enabled exit window takes each of its three grades exactly
where the delay lies between the thresholds. -/
theorem Builtin.run_eases
    {policy policy' : Policy} {f f' : Facts}
    (hf : f.IsReachable)
    (hf' : f'.IsReachable)
    (hintegers : f.HasWritableIntegers)
    (hintegers' : f'.HasWritableIntegers) :
    (∀ (b : Builtin) (c c' : RuleConfig b.model), policy.config b.id b.model = .ok c →
      policy'.config b.id b.model = .ok c' → c'.enabled = c.enabled →
        b.Eases c.values f c'.values f' →
          ((b.rule c).run f).status = .pass → ((b.rule c').run f').status = .pass) ∧
    (∀ c c' : RuleConfig exitWindow.model, policy.config exitWindow.id exitWindow.model = .ok c →
      policy'.config exitWindow.id exitWindow.model = .ok c' → c'.enabled = c.enabled →
        exitWindow.Eases c.values f c'.values f' →
          ((exitWindow.rule c').run f').exitGrade ≤ ((exitWindow.rule c).run f).exitGrade) ∧
    ∀ c : RuleConfig exitWindow.model, policy.config exitWindow.id exitWindow.model = .ok c →
      c.enabled = true → ∀ delay, f.upgrade.bind UpgradeFacts.delaySeconds = some delay →
        ((exitWindow.rule c).run f).TellsExitWindow delay c.minimumDelay c.criticalBelow := by
  refine ⟨?_, ?_, ?_⟩
  · intro b c c' hc hc' hswitch heases hpass
    exact b.run_passes_of_eases hc hc' hswitch hf hf' hintegers hintegers' heases hpass
  · intro c c' hc hc' hswitch heases
    exact exitGrade_run_le hc hc' hswitch hintegers hintegers' heases
  · intro c hc henabled delay hdelay
    exact tellsExitWindow_run hc henabled hintegers hdelay

/-- A chain whose upgrades take effect after a number of seconds. -/
def Facts.delayedChain (seconds : Nat) : Facts :=
  { bareChain with upgrade := some { delaySeconds := some seconds } }

theorem Facts.isReachable_delayedChain (seconds : Nat) : (delayedChain seconds).IsReachable :=
  .takesSection isReachable_bareChain (.upgrade (Reading.readsBack_upgrade _).read_eq)

/-- Under the policy without entries an exit window of two days fails, and not as critical; one of four
days passes. -/
theorem Builtin.run_eases_delayedChain :
    let rule := exitWindow.rule (RuleConfig.default _)
    ((rule.run (Facts.delayedChain 172800)).status = .fail ∧
      (rule.run (Facts.delayedChain 172800)).severity = some .high) ∧
      (rule.run (Facts.delayedChain 345600)).exitGrade ≤
        (rule.run (Facts.delayedChain 172800)).exitGrade := by
  intro rule
  have hintegers : ∀ seconds ∈ [172800, 345600], (Facts.delayedChain seconds).HasWritableIntegers := by
    intro seconds hseconds
    refine Facts.hasWritableIntegers_of_toJson ?_
    rcases hseconds with _ | ⟨_, _ | ⟨_, ⟨⟩⟩⟩ <;> decide +kernel
  obtain ⟨-, hgrade, htells⟩ := @run_eases {} {} _ _ (Facts.isReachable_delayedChain 172800)
    (Facts.isReachable_delayedChain 345600) (hintegers _ (.head _)) (hintegers _ (.tail _ (.head _)))
  have heases : exitWindow.Eases (RuleConfig.default exitWindow.model).values
      (Facts.delayedChain 172800) (RuleConfig.default exitWindow.model).values
      (Facts.delayedChain 345600) :=
    ⟨Nat.le_refl _, Nat.le_refl _, _, _, rfl, rfl, by decide⟩
  refine ⟨?_, hgrade _ _ rfl rfl rfl heases⟩
  exact (htells (RuleConfig.default _) rfl rfl _ rfl).high_iff.mpr ⟨by decide, by decide⟩

end RollupAudit
