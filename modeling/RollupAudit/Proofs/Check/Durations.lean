import RollupAudit.Check.Age
import RollupAudit.Proofs.Validation.Results

/-!
# Durations in checks

A check goes on with a duration only if it can be held. The time between two instants always can,
and so can a bound of a rule, since the policy keeps it below the greatest duration; no difference
that a check takes leaves this range.

**Results.**
* `Facts.exists_ageOf`: the standing of an instant is found under every bound that a policy can set.
* `exists_shownSeconds`: a number of seconds has a text if it has few enough digits.
-/

namespace RollupAudit

namespace Duration

variable {d e : Duration}

def IsHeld (d : Duration) : Prop := d.wholeDays.natAbs ≤ maxDays

theorem isHeld_iff :
    d.IsHeld ↔ -(maxDays * microsPerDay : Int) ≤ d.micros ∧
      d.micros < (maxDays + 1) * microsPerDay := by
  have hdays : d.wholeDays = d.micros / (microsPerDay : Int) :=
    Int.fdiv_eq_ediv_of_nonneg _ (Int.natCast_nonneg _)
  simp only [IsHeld, hdays, maxDays, microsPerDay, secondsPerDay, microsPerSecond]
  omega

theorem checked_eq_ok
    (h : d.IsHeld) :
    d.checked = .ok d :=
  if_pos h

theorem isHeld_ofSeconds
    {n : Nat}
    (h : n ≤ maxSeconds) :
    (ofSeconds n).IsHeld := by
  simp only [isHeld_iff, ofSeconds, maxSeconds, maxDays, microsPerDay, secondsPerDay,
    microsPerSecond] at *
  omega

/-- The calendar is shorter than the greatest duration. -/
theorem isHeld_sub_instant (a b : Instant) : (a - b).IsHeld := by
  have ha := a.micros_lt
  have hb := b.micros_lt
  simp only [isHeld_iff, Instant.micros_hsub, calendarMicros, calendarDays, maxDays, microsPerDay,
    secondsPerDay, microsPerSecond] at *
  omega

theorem isHeld_neg_sub_instant (a b : Instant) : (-(a - b)).IsHeld := by
  have hswap : -(a - b) = b - a := by
    show Duration.mk _ = Duration.mk _
    simp only [Instant.micros_hsub]
    congr 1
    omega
  rw [hswap]
  exact isHeld_sub_instant b a

/-- What a duration has more than a shorter one can be held as the duration can. -/
theorem IsHeld.sub
    (hd : d.IsHeld)
    (hzero : zero ≤ e)
    (hle : e ≤ d) :
    (d - e).IsHeld := by
  rw [isHeld_iff] at hd ⊢
  rw [le_iff] at hzero hle
  simp only [micros_sub, zero, maxDays, microsPerDay, secondsPerDay, microsPerSecond] at *
  omega

theorem zero_le_ofSeconds (n : Nat) : zero ≤ ofSeconds n := by
  rw [le_iff]
  simp only [zero, ofSeconds, microsPerSecond]
  omega

end Duration

theorem heldDuration_eq_ok
    {d : Duration}
    (h : d.IsHeld) :
    heldDuration d = .ok d := by
  rw [heldDuration, Duration.checked_eq_ok h, mapError_ok]

theorem intText?_eq_some
    {n : Int}
    (h : Text.isWritable n = true) :
    Text.intText? n = some (Text.intText n) :=
  if_pos h

theorem exists_shownInt
    {n : Int}
    (h : Text.isWritable n = true) :
    ∃ s, shownInt n = .ok s := by
  unfold shownInt
  rw [intText?_eq_some h]
  exact ⟨_, rfl⟩

/-- A number of seconds has a text, as a duration or, beyond the durations, as a count. -/
theorem exists_shownSeconds
    {n : Nat}
    (h : Text.isWritable n = true) :
    ∃ s, shownSeconds n = .ok s := by
  unfold shownSeconds secondsText
  split
  · rw [intText?_eq_some h]
    exact ⟨_, rfl⟩
  · rename_i hshort
    have hle : n ≤ Duration.maxSeconds := Nat.le_of_not_lt hshort
    rw [Duration.checked_eq_ok (Duration.isHeld_ofSeconds hle)]
    exact ⟨_, rfl⟩

/-- A number of seconds that a duration can hold has a text. -/
theorem isWritable_of_le_maxSeconds
    {n : Int}
    (h : n.natAbs ≤ Duration.maxSeconds) :
    Text.isWritable n = true := by
  have hmax : Duration.maxSeconds < 10 ^ 14 := by decide
  have hpow : ∀ digits, 14 ≤ digits → (10 : Nat) ^ 14 ≤ 10 ^ digits :=
    fun _ => Nat.pow_le_pow_right (by decide)
  exact decide_eq_true (Nat.lt_of_lt_of_le (Nat.lt_of_le_of_lt h hmax) (hpow _ (by decide)))

/-- The standing of an instant is found, and so is by how much it misses the bound. -/
theorem Facts.exists_ageOf
    (f : Facts)
    (recorded : Instant)
    {boundSeconds : Nat}
    (h : boundSeconds ≤ Duration.maxSeconds) :
    ∃ a, f.ageOf recorded boundSeconds = .ok a ∧
      ∀ age bound, a = .overdue age bound → (age - bound).IsHeld := by
  have hlead : (-(f.elapsedSince recorded)).IsHeld := Duration.isHeld_neg_sub_instant _ _
  have hage : (f.elapsedSince recorded).IsHeld := Duration.isHeld_sub_instant _ _
  simp only [ageOf]
  split
  · rw [heldDuration_eq_ok hlead]
    refine ⟨_, rfl, ?_⟩
    intro age bound h
    cases h
  · have hbound := Duration.isHeld_ofSeconds h
    rw [heldDuration_eq_ok hbound]
    refine ⟨_, rfl, ?_⟩
    intro age bound hoverdue
    dsimp only at hoverdue
    split at hoverdue
    · rename_i hlt
      cases hoverdue
      have hle : Duration.ofSeconds boundSeconds ≤ f.elapsedSince recorded := by
        rw [Duration.lt_iff] at hlt
        rw [Duration.le_iff]
        omega
      exact hage.sub (Duration.zero_le_ofSeconds boundSeconds) hle
    · cases hoverdue

end RollupAudit
