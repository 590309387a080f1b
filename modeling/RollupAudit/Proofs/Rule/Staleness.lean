import Mathlib.Data.Rat.Cast.Order
import Mathlib.Tactic.NormNum
import RollupAudit.Proofs.Number.Binary64Quotient
import RollupAudit.Proofs.Rule.Timing

/-!
# Staleness of the oracle

The age of the last update is compared with the oracle's own bound, which no policy keeps below the
greatest duration. So the age is turned into seconds as a floating-point number. That number is exact
only up to half the distance to its neighbours, and a bound of a few hundred years lies where the
neighbours are further apart than a microsecond: an age that exceeds such a bound by less than half
their distance counts as fresh.

**Results.**
* `compareInt?_floatSeconds_eq_gt_iff`: when the seconds of an age exceed a bound.
* `Check.oracleStaleness_spec`: the outcome of the check, in microseconds.
* `Builtin.run_oracleStaleness`: the rule decides exactly under every bound below 2 ^ 34 seconds, and
  overlooks 30 microseconds at most under any other.
-/

namespace RollupAudit

/-- By how much an age may exceed a bound in seconds without its seconds, as a floating-point number,
being greater: half the distance from the bound to the next number, in microseconds. -/
def overlooked (bound : Nat) : ℚ :=
  ((Duration.microsPerSecond * 2 ^ bound.log2 : Nat) : ℚ) / ((2 ^ 53 : Nat) : ℚ)

theorem overlooked_nonneg (bound : Nat) : 0 ≤ overlooked bound :=
  div_nonneg (Nat.cast_nonneg _) (Nat.cast_nonneg _)

/-- What is overlooked grows with the number of binary digits of the bound. -/
theorem overlooked_lt
    {bound e micros : Nat}
    (hbound : bound < 2 ^ (e + 1))
    (hmicros : 1000000 * 2 ^ e < micros * 2 ^ 53) :
    overlooked bound < micros := by
  have hlog : bound.log2 ≤ e := by
    by_cases hzero : bound = 0
    · simp [hzero]
    · exact Nat.le_of_lt_succ ((Nat.log2_lt hzero).mpr hbound)
  have hpow : Duration.microsPerSecond * 2 ^ bound.log2 < micros * 2 ^ 53 :=
    Nat.lt_of_le_of_lt (Nat.mul_le_mul_left 1000000 (Nat.pow_le_pow_right (by decide) hlog)) hmicros
  have hunit : (0 : ℚ) < (2 ^ 53 : Nat) := Nat.cast_pos.mpr (Nat.two_pow_pos 53)
  rw [overlooked, div_lt_iff₀ hunit]
  exact_mod_cast hpow

/-- The seconds of an age are greater than a bound exactly if the age exceeds the bound by more than is
overlooked. -/
theorem compareInt?_floatSeconds_eq_gt_iff
    {age : Int}
    (hnonneg : 0 ≤ age)
    (hshort : age < calendarMicros)
    (bound : Nat) :
    (Check.floatSeconds ⟨age⟩).compareInt? bound = some .gt ↔
      microsOf bound + overlooked bound < age := by
  obtain ⟨n, rfl⟩ := Int.eq_ofNat_of_zero_le hnonneg
  have hn : n < 2 ^ 52 * Duration.microsPerSecond := by
    have hcalendar : calendarMicros ≤ 2 ^ 52 * Duration.microsPerSecond := by decide
    omega
  have hfloat : Check.floatSeconds ⟨n⟩ =
      Binary64.ofQuotient false n Duration.microsPerSecond := by
    have hsign : (Duration.mk n).isNegative = false := by
      simp [Duration.isNegative]
    rw [Check.floatSeconds, hsign]
    rfl
  rw [hfloat, Binary64.compareInt?_ofQuotient_eq_gt_iff (by decide) (by decide) hn, microsOf,
    overlooked]
  have hunit : (0 : ℚ) < (2 ^ 53 : Nat) := Nat.cast_pos.mpr (Nat.two_pow_pos 53)
  generalize Duration.microsPerSecond = d
  generalize 2 ^ 53 = unit at hunit ⊢
  generalize 2 ^ bound.log2 = spacing
  rw [add_div' _ _ _ hunit.ne', div_lt_iff₀ hunit]
  exact_mod_cast Iff.rfl

/-- That an outcome tells how an age, in microseconds, stands to a bound in seconds: up to what is
overlooked. -/
structure Outcome.TellsStaleness (o : Outcome) (age : Int) (bound : Nat) : Prop where
  inconclusive_iff : o.status = .inconclusive ↔ age < 0
  fail_iff : o.status = .fail ↔ microsOf bound + overlooked bound < age
  pass_iff : o.status = .pass ↔ 0 ≤ age ∧ (age : ℚ) ≤ microsOf bound + overlooked bound
  internalError : o.internalError = false

section Staleness

variable {f : Facts} {update : Instant} {bound : Nat} {age : Int}

theorem microsOf_add_overlooked_nonneg (bound : Nat) : 0 ≤ (microsOf bound + overlooked bound : ℚ) :=
  add_nonneg (Int.cast_nonneg (microsOf_nonneg bound)) (overlooked_nonneg bound)

/-- A bound that an age within the calendar exceeds can be held as a duration. -/
theorem le_maxSeconds_of_microsOf_lt
    (hshort : age < calendarMicros)
    (h : (microsOf bound + overlooked bound : ℚ) < age) :
    bound ≤ Duration.maxSeconds := by
  have hbelow : (microsOf bound : ℚ) < age := by linarith [overlooked_nonneg bound]
  have hbelow : microsOf bound < age := by exact_mod_cast hbelow
  rw [microsOf] at hbelow
  simp only [calendarMicros, calendarDays, Duration.maxSeconds, Duration.maxDays,
    Duration.microsPerDay, Duration.secondsPerDay, Duration.microsPerSecond] at *
  omega

/-- The outcome of the check, by the age in microseconds. -/
theorem Check.oracleStaleness_spec
    (hupdate : f.oracle.bind OracleFacts.lastUpdate = some update)
    (hbound : f.oracle.bind OracleFacts.freshnessBoundSeconds = some bound)
    (hage : (f.observedAt.micros - update.micros : Int) = age) :
    ∃ o, oracleStaleness f = .ok o ∧ o.TellsStaleness age bound := by
  obtain ⟨oracle, horacle, hupdate⟩ := Option.bind_eq_some_iff.mp hupdate
  rw [horacle, Option.bind_some] at hbound
  have helapsed : f.elapsedSince update = ⟨age⟩ := congrArg Duration.mk hage
  have hshort : age < calendarMicros := by
    have := f.observedAt.micros_lt
    omega
  have hlead : heldDuration (-⟨age⟩) = .ok ⟨-age⟩ := by
    have hheld := Duration.isHeld_neg_sub_instant f.observedAt update
    rw [show f.observedAt - update = Duration.mk age from helapsed] at hheld
    exact heldDuration_eq_ok hheld
  have hnonneg := microsOf_add_overlooked_nonneg bound
  simp only [oracleStaleness, horacle, hupdate, hbound, helapsed, hlead]
  by_cases hahead : age < 0
  · have hnegative : (age : ℚ) < 0 := by exact_mod_cast hahead
    refine ⟨_, if_pos hahead, ?_⟩
    exact {
      inconclusive_iff := iff_of_true rfl hahead
      fail_iff := iff_of_false (by rintro ⟨⟩) (by linarith)
      pass_iff := iff_of_false (by rintro ⟨⟩) (by omega)
      internalError := rfl }
  rw [if_neg (show ¬ (⟨age⟩ : Duration) < Duration.zero from hahead)]
  have hpast : 0 ≤ age := by omega
  have hiff := compareInt?_floatSeconds_eq_gt_iff hpast hshort bound
  by_cases hover : (microsOf bound + overlooked bound : ℚ) < age
  · obtain ⟨shown, hshown⟩ := exists_shownSeconds
      (isWritable_of_le_maxSeconds (n := bound) (le_maxSeconds_of_microsOf_lt hshort hover))
    rw [if_pos (hiff.mpr hover), hshown]
    refine ⟨_, rfl, ?_⟩
    exact {
      inconclusive_iff := iff_of_false (by rintro ⟨⟩) hahead
      fail_iff := iff_of_true rfl hover
      pass_iff := iff_of_false (by rintro ⟨⟩) (fun h => absurd hover (not_lt.mpr h.2))
      internalError := rfl }
  · rw [if_neg (mt hiff.mp hover)]
    refine ⟨_, rfl, ?_⟩
    exact {
      inconclusive_iff := iff_of_false (by rintro ⟨⟩) hahead
      fail_iff := iff_of_false (by rintro ⟨⟩) hover
      pass_iff := iff_of_true rfl ⟨hpast, not_lt.mp hover⟩
      internalError := rfl }

end Staleness

/-- Where the last update and the oracle's own bound are known, the enabled rule tells by the age
whether prices are stale: never too early, exactly under every bound below 2 ^ 34 seconds, and no more
than 30 microseconds too late under any bound. -/
theorem Builtin.run_oracleStaleness
    {c : RuleConfig oracleStaleness.model}
    (henabled : c.enabled = true)
    {f : Facts} {update : Instant} {bound : Nat}
    (hupdate : f.oracle.bind OracleFacts.lastUpdate = some update)
    (hbound : f.oracle.bind OracleFacts.freshnessBoundSeconds = some bound) :
    let o := (oracleStaleness.rule c).run f
    let age : Int := f.observedAt.micros - update.micros
    o.TellsStaleness age bound ∧
      (o.status = .fail → microsOf bound < age) ∧
      (bound < 2 ^ 34 → (o.status = .fail ↔ microsOf bound < age)) ∧
      (microsOf bound + 30 < age → o.status = .fail) := by
  intro o age
  obtain ⟨o', hcheck, htells⟩ := Check.oracleStaleness_spec hupdate hbound rfl
  have ho : o = o' := run_rule_eq henabled hcheck
  rw [← ho] at htells
  have hexceeds (micros : Nat) (hmicros : overlooked bound < micros + 1)
      (hlate : microsOf bound + micros < age) : o.status = .fail := by
    have hlate : (microsOf bound : ℚ) + micros + 1 ≤ age := by exact_mod_cast hlate
    exact htells.fail_iff.mpr (by linarith)
  have hearly : o.status = .fail → microsOf bound < age := by
    intro hfail
    have hover := htells.fail_iff.mp hfail
    have hnonneg := overlooked_nonneg bound
    exact_mod_cast (by linarith : (microsOf bound : ℚ) < age)
  refine ⟨htells, hearly, fun hsmall => ⟨hearly, fun hlate => ?_⟩, fun hlate => ?_⟩
  · have hbelow : overlooked bound < (1 : Nat) := overlooked_lt (e := 33) hsmall (by decide)
    exact hexceeds 0 (by simpa using hbelow) (by simpa using hlate)
  · -- A bound of 2 ^ 39 seconds or more is longer than the calendar.
    have hsmall : bound < 2 ^ 39 := by
      have hshort := f.observedAt.micros_lt
      simp only [microsOf, age, calendarMicros, calendarDays, Duration.microsPerDay,
        Duration.secondsPerDay, Duration.microsPerSecond] at hlate hshort
      omega
    have hbelow : overlooked bound < (31 : Nat) := overlooked_lt (e := 38) hsmall (by decide)
    exact hexceeds 30 (by norm_num at hbelow ⊢; exact hbelow) (by exact_mod_cast hlate)

theorem calendarMicros_pos : 0 < calendarMicros := by decide

/-- The first instant of the calendar. -/
def Instant.first : Instant := ⟨0, calendarMicros_pos⟩

/-- A chain whose oracle was last updated a microsecond longer ago than its bound of 2 ^ 34 seconds
allows. The root that is anchored is as old. -/
def Facts.agedChain : Facts :=
  { bareChain with
    observedAt := ⟨17179869184000001, by decide⟩
    anchor := some { timestamp := .first }
    oracle := some
      { lastUpdate := some .first
        freshnessBoundSeconds := some 17179869184 } }

/-- The age exceeds the bound by a microsecond, which is less than is overlooked. -/
theorem Builtin.run_oracleStaleness_agedChain :
    let bound := 17179869184
    let age : Int := 17179869184000001
    age = microsOf bound + 1 ∧ (age : ℚ) ≤ microsOf bound + overlooked bound ∧
      ((oracleStaleness.rule (RuleConfig.default _)).run Facts.agedChain).status = .pass := by
  intro bound age
  have hage : age = microsOf bound + 1 := by decide
  have hspacing : (1 : ℚ) ≤ overlooked bound := by
    have hunit : (0 : ℚ) < (2 ^ 53 : Nat) := Nat.cast_pos.mpr (Nat.two_pow_pos 53)
    rw [overlooked, le_div_iff₀ hunit, one_mul, Nat.cast_le]
    decide
  have hoverlooked : (age : ℚ) ≤ microsOf bound + overlooked bound := by
    rw [hage]
    push_cast
    linarith
  obtain ⟨htells, -⟩ := run_oracleStaleness (c := RuleConfig.default _) rfl
    (f := Facts.agedChain) rfl rfl
  exact ⟨hage, hoverlooked, htells.pass_iff.mpr ⟨by decide, hoverlooked⟩⟩

/-- A bound of 2 ^ 34 seconds, under which the age of a root is too great, lets the same age of an
update pass. -/
theorem Builtin.run_oracleStaleness_overlooks :
    let bound : Nat := 17179869184
    let bounded : RuleConfig anchorFreshness.model := { values := (bound, ()) }
    ∃ moment, Facts.agedChain.anchor.map AnchorFacts.timestamp = some moment ∧
      Facts.agedChain.oracle.bind OracleFacts.lastUpdate = some moment ∧
      Facts.agedChain.oracle.bind OracleFacts.freshnessBoundSeconds = some bound ∧
      microsOf bound < (Facts.agedChain.observedAt.micros - moment.micros : Int) ∧
      ((anchorFreshness.rule bounded).run Facts.agedChain).status = .fail ∧
      ((oracleStaleness.rule (RuleConfig.default _)).run Facts.agedChain).status = .pass := by
  exact ⟨_, rfl, rfl, rfl, by decide, by decide +kernel, by decide +kernel⟩

end RollupAudit
