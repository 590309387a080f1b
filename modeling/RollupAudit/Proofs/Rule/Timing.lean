import RollupAudit.Proofs.Check.Durations
import RollupAudit.Proofs.Facts.Overrides
import RollupAudit.Proofs.Rule.Configuration

/-!
# Rules about time

Three rules judge the age of a recorded instant, and one the time that is left until an upgrade
activates. Their checks work with durations that can be held or not; here they are compared with
whole microseconds, for which there is no such limit. No duration leaves the range, and the outcome
names the time that decides it.

**Results.**
* `Facts.ageOf_cases`: the standing of an instant, in microseconds.
* `AgeRule.tellsAge_run`: the outcome of a rule about an age.
* `Builtin.tellsActivation_run`: the outcome of the rule about pending upgrades.
* `Builtin.run_about_time`: how the four rules classify times.
-/

namespace RollupAudit

/-- The microseconds of a number of seconds. -/
def microsOf (seconds : Nat) : Int := seconds * Duration.microsPerSecond

theorem microsOf_nonneg (seconds : Nat) : 0 ≤ microsOf seconds :=
  Int.mul_nonneg (Int.natCast_nonneg _) (Int.natCast_nonneg _)

/-- That a time between instants and a bound, in microseconds, can be held as durations, and so can
the time the other way and what it has more than the bound. -/
structure TimesHeld (time bound : Int) : Prop where
  isHeld_time : Duration.IsHeld ⟨time⟩
  isHeld_neg : Duration.IsHeld ⟨-time⟩
  isHeld_bound : Duration.IsHeld ⟨bound⟩
  isHeld_excess : bound < time → Duration.IsHeld ⟨time - bound⟩

/-- A rule about the age of an instant that is recorded. -/
inductive AgeRule
  | anchor
  | sequencer
  | proposer
  deriving DecidableEq

namespace AgeRule

def builtin : AgeRule → Builtin
  | anchor => .anchorFreshness
  | sequencer => .sequencerLiveness
  | proposer => .proposerLiveness

/-- The bound on the age, in seconds. -/
def bound : (r : AgeRule) → r.builtin.model.Values → Nat
  | anchor, ((n : Nat), _) => n
  | sequencer, ((n : Nat), _) => n
  | proposer, ((n : Nat), _) => n

/-- The instant that a rule is about. -/
def recorded? : AgeRule → Facts → Option Instant
  | anchor, f => f.anchor.map AnchorFacts.timestamp
  | sequencer, f => f.sequencer.bind OperatorFacts.lastActivity
  | proposer, f => f.proposer.bind OperatorFacts.lastActivity

/-- The words for an instant that lies ahead of the observation. -/
def aheadText : AgeRule → Duration → String
  | anchor, lead => "anchor timestamp is " ++ lead.text ++ " later than the observation time"
  | sequencer, lead =>
    "sequencer last activity is " ++ lead.text ++ " later than the observation time"
  | proposer, lead => "proposer last activity is " ++ lead.text ++ " later than the observation time"

/-- The words for an age, a bound and by how much the age exceeds it. -/
def overdueText : AgeRule → Duration → Duration → Duration → String
  | anchor, _, _, excess => "anchor root exceeds freshness bound by " ++ excess.text
  | sequencer, age, bound, _ =>
    "sequencer inactive for " ++ age.text ++ ", exceeding the " ++ bound.text ++ " liveness bound"
  | proposer, age, bound, _ =>
    "proposer inactive for " ++ age.text ++ ", exceeding the " ++ bound.text ++ " liveness bound"

/-- The words for an age within the bound. -/
def recentText : AgeRule → Duration → String
  | anchor, age => "anchor root is " ++ age.text ++ " old"
  | sequencer, age => "sequencer last active " ++ age.text ++ " ago"
  | proposer, age => "proposer last active " ++ age.text ++ " ago"

/-- That an outcome tells the standing of an instant by its age and the bound, both in
microseconds, and names what decides it. -/
structure TellsAge (r : AgeRule) (o : Outcome) (age bound : Int) : Prop where
  inconclusive_iff : o.status = .inconclusive ↔ age < 0
  fail_iff : o.status = .fail ↔ bound < age
  pass_iff : o.status = .pass ↔ 0 ≤ age ∧ age ≤ bound
  detail_ahead : age < 0 → o.detail = r.aheadText ⟨-age⟩
  detail_overdue : bound < age → o.detail = r.overdueText ⟨age⟩ ⟨bound⟩ ⟨age - bound⟩
  detail_recent : 0 ≤ age → age ≤ bound → o.detail = r.recentText ⟨age⟩
  internalError : o.internalError = false

end AgeRule

/-- That an outcome tells the time that remains until a pending upgrade activates, and whether it is
less than the notice, both in microseconds. -/
structure Outcome.TellsActivation (o : Outcome) (pending : Address) (remaining notice : Int) :
    Prop where
  inconclusive_iff : o.status = .inconclusive ↔ remaining ≤ 0
  fail_iff : o.status = .fail ↔ 0 < remaining ∧ remaining < notice
  pass_iff : o.status = .pass ↔ 0 < remaining ∧ notice ≤ remaining
  detail_passed : remaining ≤ 0 →
    o.detail = "activation time for pending implementation " ++ pending.text ++ " passed " ++
      (Duration.mk (-remaining)).text ++ " ago but it is still pending"
  detail_short : 0 < remaining → remaining < notice →
    o.detail = "pending implementation " ++ pending.text ++ " activates in " ++
      (Duration.mk remaining).text ++ ", less than the " ++ (Duration.mk notice).text ++
        " notice period"
  detail_enough : 0 < remaining → notice ≤ remaining →
    o.detail = "pending implementation " ++ pending.text ++ " activates in " ++
      (Duration.mk remaining).text
  internalError : o.internalError = false

section Times

variable {f : Facts} {recorded scheduled : Instant} {bound : Nat} {age remaining : Int}

/-- Instants lie close enough to each other, and a bound is not negative. -/
theorem timesHeld
    (a b : Instant)
    (hbound : bound ≤ Duration.maxSeconds) :
    TimesHeld (a.micros - b.micros) (microsOf bound) := by
  have htime : Duration.IsHeld ⟨a.micros - b.micros⟩ := Duration.isHeld_sub_instant a b
  exact {
    isHeld_time := htime
    isHeld_neg := Duration.isHeld_neg_sub_instant a b
    isHeld_bound := Duration.isHeld_ofSeconds hbound
    isHeld_excess := fun hover => htime.sub (Duration.zero_le_ofSeconds bound) (Int.le_of_lt hover) }

/-- The standing of an instant that is recorded is told by its age in microseconds. -/
theorem Facts.ageOf_cases
    (hage : (f.observedAt.micros - recorded.micros : Int) = age)
    (hbound : bound ≤ Duration.maxSeconds) :
    (age < 0 ∧ f.ageOf recorded bound = .ok (.ahead ⟨-age⟩)) ∨
      (microsOf bound < age ∧ f.ageOf recorded bound = .ok (.overdue ⟨age⟩ ⟨microsOf bound⟩)) ∨
      (0 ≤ age ∧ age ≤ microsOf bound ∧ f.ageOf recorded bound = .ok (.recent ⟨age⟩)) := by
  have hheld := timesHeld f.observedAt recorded hbound
  rw [hage] at hheld
  have helapsed : f.elapsedSince recorded = ⟨age⟩ := congrArg Duration.mk hage
  have hlead : heldDuration (-⟨age⟩) = .ok ⟨-age⟩ := heldDuration_eq_ok hheld.isHeld_neg
  have hmost : heldDuration (.ofSeconds bound) = .ok ⟨microsOf bound⟩ :=
    heldDuration_eq_ok hheld.isHeld_bound
  simp only [ageOf, helapsed, hlead, hmost]
  by_cases hahead : age < 0
  · exact .inl ⟨hahead, if_pos hahead⟩
  · rw [if_neg (show ¬ (⟨age⟩ : Duration) < Duration.zero from hahead)]
    by_cases hover : microsOf bound < age
    · exact .inr (.inl ⟨hover, congrArg Except.ok (if_pos hover)⟩)
    · exact .inr (.inr ⟨by omega, by omega, congrArg Except.ok (if_neg hover)⟩)

/-- What an age rule says about the standing of an instant, as an outcome. -/
def AgeRule.outcomeOf (r : AgeRule) : Age → Outcome
  | .ahead lead => .inconclusive (r.aheadText lead)
  | .overdue age bound => .fail (r.overdueText age bound (age - bound))
  | .recent age => .passed (r.recentText age)

/-- The check of an age rule is what the rule says about the standing of the instant, if the excess
over the bound can be held. -/
theorem AgeRule.check_eq
    (r : AgeRule)
    {values : r.builtin.model.Values} {a : Age}
    (hrecorded : r.recorded? f = some recorded)
    (ha : f.ageOf recorded (r.bound values) = .ok a)
    (hexcess : ∀ age bound, a = .overdue age bound → (age - bound).IsHeld) :
    r.builtin.check values f = .ok (r.outcomeOf a) := by
  cases r with
  | anchor =>
    obtain ⟨bound, rest⟩ := values
    obtain ⟨anchor, hanchor, rfl⟩ := Option.map_eq_some_iff.mp hrecorded
    have ha : f.ageOf anchor.timestamp bound = .ok a := ha
    show Check.anchorFreshness bound f = _
    simp only [Check.anchorFreshness, hanchor, ha]
    cases a with
    | overdue age bound =>
      show heldDuration (age - bound) >>= _ = _
      rw [heldDuration_eq_ok (hexcess age bound rfl)]
      rfl
    | _ => rfl
  | sequencer =>
    obtain ⟨bound, rest⟩ := values
    have hrecorded : f.sequencer.bind OperatorFacts.lastActivity = some recorded := hrecorded
    have ha : f.ageOf recorded bound = .ok a := ha
    show Check.liveness "sequencer" bound f f.sequencer = _
    simp only [Check.liveness, hrecorded, ha]
    cases a <;> rfl
  | proposer =>
    obtain ⟨bound, rest⟩ := values
    have hrecorded : f.proposer.bind OperatorFacts.lastActivity = some recorded := hrecorded
    have ha : f.ageOf recorded bound = .ok a := ha
    show Check.liveness "proposer" bound f f.proposer = _
    simp only [Check.liveness, hrecorded, ha]
    cases a <;> rfl

theorem AgeRule.bound_le
    (r : AgeRule)
    {values : r.builtin.model.Values}
    (hwithin : Constants.Within r.builtin.model.constants values) :
    r.bound values ≤ Duration.maxSeconds := by
  cases r <;> exact hwithin.1

/-- An enabled age rule under bounds that a policy can set tells the standing of the instant. -/
theorem AgeRule.tellsAge_run
    (r : AgeRule)
    {c : RuleConfig r.builtin.model}
    (hwithin : Constants.Within r.builtin.model.constants c.values)
    (henabled : c.enabled = true)
    (hrecorded : r.recorded? f = some recorded) :
    r.TellsAge ((r.builtin.rule c).run f) (f.observedAt.micros - recorded.micros)
      (microsOf (r.bound c.values)) := by
  generalize hage : (f.observedAt.micros - recorded.micros : Int) = age
  have hbound := r.bound_le hwithin
  have hnonneg := microsOf_nonneg (r.bound c.values)
  rcases f.ageOf_cases hage hbound with ⟨hahead, ha⟩ | ⟨hover, ha⟩ | ⟨hpast, hwithin, ha⟩
  · have hcheck := r.check_eq hrecorded ha nofun
    rw [Builtin.run_rule_eq henabled hcheck]
    exact {
      inconclusive_iff := iff_of_true rfl hahead
      fail_iff := iff_of_false (by rintro ⟨⟩) (by omega)
      pass_iff := iff_of_false (by rintro ⟨⟩) (by omega)
      detail_ahead := fun _ => rfl
      detail_overdue := fun h => by omega
      detail_recent := fun h => by omega
      internalError := rfl }
  · have hexcess := (timesHeld f.observedAt recorded hbound).isHeld_excess (hage ▸ hover)
    rw [hage] at hexcess
    have hcheck := r.check_eq hrecorded ha fun _ _ h => by
      cases h
      exact hexcess
    rw [Builtin.run_rule_eq henabled hcheck]
    exact {
      inconclusive_iff := iff_of_false (by rintro ⟨⟩) (by omega)
      fail_iff := iff_of_true rfl hover
      pass_iff := iff_of_false (by rintro ⟨⟩) (by omega)
      detail_ahead := fun h => by omega
      detail_overdue := fun _ => rfl
      detail_recent := fun _ h => by omega
      internalError := rfl }
  · have hcheck := r.check_eq hrecorded ha nofun
    rw [Builtin.run_rule_eq henabled hcheck]
    exact {
      inconclusive_iff := iff_of_false (by rintro ⟨⟩) (by omega)
      fail_iff := iff_of_false (by rintro ⟨⟩) (by omega)
      pass_iff := iff_of_true rfl ⟨hpast, hwithin⟩
      detail_ahead := fun h => by omega
      detail_overdue := fun h => by omega
      detail_recent := fun _ _ => rfl
      internalError := rfl }

/-- The notice that a pending upgrade is to give, in seconds. -/
def RuleConfig.notice : RuleConfig Builtin.pendingActivation.model → Nat
  | ⟨_, _, ((notice : Nat), _)⟩ => notice

/-- The time that remains until the activation of a pending upgrade decides, in microseconds. -/
theorem Check.scheduledActivation_spec
    {notice : Nat}
    (hnotice : notice ≤ Duration.maxSeconds)
    (pending : Address)
    (a b : Instant) :
    ∃ o, scheduledActivation notice pending (a - b) = .ok o ∧
      o.TellsActivation pending (a.micros - b.micros) (microsOf notice) := by
  have hsince : heldDuration (-⟨a.micros - b.micros⟩) = .ok ⟨-(a.micros - b.micros)⟩ :=
    heldDuration_eq_ok (timesHeld a b hnotice).isHeld_neg
  have hheld : heldDuration ⟨microsOf notice⟩ = .ok ⟨microsOf notice⟩ :=
    heldDuration_eq_ok (timesHeld a b hnotice).isHeld_bound
  have hdifference : a - b = Duration.mk (a.micros - b.micros) := rfl
  have hseconds : Duration.ofSeconds notice = ⟨microsOf notice⟩ := rfl
  simp only [scheduledActivation, hdifference, hseconds, hsince, hheld, Duration.le_iff,
    Duration.lt_iff, Duration.zero]
  generalize (a.micros - b.micros : Int) = remaining
  have hnonneg := microsOf_nonneg notice
  by_cases hpassed : remaining ≤ 0
  · rw [if_pos hpassed]
    refine ⟨_, rfl, ?_⟩
    exact {
      inconclusive_iff := iff_of_true rfl hpassed
      fail_iff := iff_of_false (by rintro ⟨⟩) (by omega)
      pass_iff := iff_of_false (by rintro ⟨⟩) (by omega)
      detail_passed := fun _ => rfl
      detail_short := fun h => by omega
      detail_enough := fun h => by omega
      internalError := rfl }
  rw [if_neg hpassed]
  by_cases hshort : remaining < microsOf notice
  · refine ⟨_, if_pos hshort, ?_⟩
    exact {
      inconclusive_iff := iff_of_false (by rintro ⟨⟩) (by omega)
      fail_iff := iff_of_true rfl (by omega)
      pass_iff := iff_of_false (by rintro ⟨⟩) (by omega)
      detail_passed := fun h => by omega
      detail_short := fun _ _ => rfl
      detail_enough := fun _ h => by omega
      internalError := rfl }
  · refine ⟨_, if_neg hshort, ?_⟩
    exact {
      inconclusive_iff := iff_of_false (by rintro ⟨⟩) (by omega)
      fail_iff := iff_of_false (by rintro ⟨⟩) (by omega)
      pass_iff := iff_of_true rfl (by omega)
      detail_passed := fun h => by omega
      detail_short := fun _ h => by omega
      detail_enough := fun _ _ => rfl
      internalError := rfl }

/-- That an upgrade is pending and is to activate at an instant. -/
def Facts.AwaitsUpgrade (f : Facts) (pending : Address) (scheduled : Instant) : Prop :=
  ∃ u, f.upgrade = some u ∧ u.pendingImplementation = some pending ∧ pending.isUnset = false ∧
    u.scheduledActivation = some scheduled

theorem Builtin.tellsActivation_run
    {c : RuleConfig pendingActivation.model} {pending : Address}
    (hwithin : Constants.Within pendingActivation.model.constants c.values)
    (henabled : c.enabled = true)
    (hawaits : f.AwaitsUpgrade pending scheduled) :
    ((pendingActivation.rule c).run f).TellsActivation pending
      (scheduled.micros - f.observedAt.micros) (microsOf c.notice) := by
  obtain ⟨u, hu, hpending, hset, hscheduled⟩ := hawaits
  have hnotice : c.notice ≤ Duration.maxSeconds := hwithin.1
  obtain ⟨o, ho, htells⟩ := Check.scheduledActivation_spec hnotice pending scheduled f.observedAt
  have hcheck : pendingActivation.check c.values f = .ok o := by
    show Check.pendingActivation c.notice f = .ok o
    simp [Check.pendingActivation, hu, hpending, hset, hscheduled, ho]
  rwa [run_rule_eq henabled hcheck]

end Times

/-- Under every accepted policy the three enabled rules about an age classify it by exact comparison
with zero and with the bound, and the enabled rule about pending upgrades does so with the time that
remains. Nothing that they compute leaves the range of durations, and what they name is the time that
decided. -/
theorem Builtin.run_about_time
    (policy : Policy)
    (f : Facts) :
    (∀ (r : AgeRule) (c : RuleConfig r.builtin.model),
      policy.config r.builtin.id r.builtin.model = .ok c → c.enabled = true →
        ∀ recorded, r.recorded? f = some recorded →
          let age : Int := f.observedAt.micros - recorded.micros
          let bound := microsOf (r.bound c.values)
          r.TellsAge ((r.builtin.rule c).run f) age bound ∧ TimesHeld age bound) ∧
    ∀ c : RuleConfig pendingActivation.model,
      policy.config pendingActivation.id pendingActivation.model = .ok c → c.enabled = true →
        ∀ pending scheduled, f.AwaitsUpgrade pending scheduled →
          let remaining : Int := scheduled.micros - f.observedAt.micros
          let notice := microsOf c.notice
          ((pendingActivation.rule c).run f).TellsActivation pending remaining notice ∧
            TimesHeld remaining notice := by
  constructor
  · intro r c hc henabled recorded hrecorded
    have hwithin := RuleConfig.within_of_config hc
    exact ⟨r.tellsAge_run hwithin henabled hrecorded, timesHeld _ _ (r.bound_le hwithin)⟩
  · intro c hc henabled pending scheduled hawaits
    have hwithin := RuleConfig.within_of_config hc
    exact ⟨tellsActivation_run hwithin henabled hawaits, timesHeld _ _ hwithin.1⟩

/-- A chain whose sequencer was last active an hour before the observation, and whose pending upgrade
activates a microsecond less than three days after it. -/
def Facts.borderChain : Facts :=
  { bareChain with
    observedAt := ⟨864000000000, by decide⟩
    sequencer := some { lastActivity := some ⟨860400000000, by decide⟩ }
    upgrade := some
      { pendingImplementation := some (.account ⟨1, by decide⟩)
        scheduledActivation := some ⟨1123199999999, by decide⟩ } }

/-- An hour is within the bound of an hour, and a microsecond less than three days is not a notice of
three days. -/
theorem Builtin.run_about_time_borderChain :
    ((sequencerLiveness.rule (RuleConfig.default _)).run Facts.borderChain).status = .pass ∧
      ((pendingActivation.rule (RuleConfig.default _)).run Facts.borderChain).status = .fail := by
  obtain ⟨hage, hactivation⟩ := run_about_time {} Facts.borderChain
  have hsequencer := (hage .sequencer (RuleConfig.default _) rfl rfl _ rfl).1
  have hpending := (hactivation (RuleConfig.default _) rfl rfl _ _ ⟨_, rfl, rfl, rfl, rfl⟩).1
  exact ⟨hsequencer.pass_iff.mpr (by decide), hpending.fail_iff.mpr (by decide)⟩

end RollupAudit
