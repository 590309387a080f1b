import RollupAudit.Check.Anchor
import RollupAudit.Check.Operator
import RollupAudit.Check.Oracle
import RollupAudit.Check.Quantity
import RollupAudit.Check.Upgrade
import RollupAudit.Check.Withdrawal
import RollupAudit.Facts.Canonical
import RollupAudit.Proofs.Check.Durations
import RollupAudit.Proofs.Number.DecimalProduct

/-!
# Checks that give an outcome

Of the three faults that can keep a check from an outcome, integers with too many digits are excluded
by a snapshot that has a canonical text, and durations that cannot be held by the bounds of the
constants. What is left is the product of the coverage check.

**Results.**
* `Facts.hasWritableIntegers_of_toJson`: the integers that checks show stand in the canonical text.
* `Check.settles_anchorFreshness` and the like: the checks that show a duration or an integer settle.
* `Check.withdrawalLiquidity_settles_or`: the coverage check settles unless it overflows.
-/

namespace RollupAudit

/-- That a check comes to an outcome, and one that is no internal error. -/
def CheckResult.Settles (r : CheckResult) : Prop := ∃ o, r = .ok o ∧ o.internalError = false

theorem settles_ok
    {o : Outcome}
    (h : o.internalError = false) :
    CheckResult.Settles (.ok o) :=
  ⟨o, rfl, h⟩

theorem settles_bind
    {α : Type} {x : Except CheckFault α} {a : α} {g : α → CheckResult}
    (hx : x = .ok a)
    (hg : CheckResult.Settles (g a)) :
    CheckResult.Settles (x >>= g) := by
  rw [hx]
  exact hg

/-- That the integers of a snapshot have few enough digits to be shown. -/
structure Facts.HasWritableIntegers (f : Facts) : Prop where
  upgradeDelay : ∀ n, f.upgrade.bind UpgradeFacts.delaySeconds = some n →
    Text.isWritable (n : Nat) = true
  withdrawalDelay : ∀ n, f.withdrawal.bind WithdrawalFacts.delaySeconds = some n →
    Text.isWritable (n : Nat) = true
  freshnessBound : ∀ n, f.oracle.bind OracleFacts.freshnessBoundSeconds = some n →
    Text.isWritable (n : Nat) = true
  parameter : ∀ name n, f.parameter? name = some (.int n) → Text.isWritable n = true

theorem Json.isWritable_of_mem
    {ms : List (String × Json)} {m : String × Json}
    (h : Json.membersWritable ms = true)
    (hm : m ∈ ms) :
    m.2.isWritable = true := by
  induction ms with
  | nil => cases hm
  | cons first rest ih =>
    obtain ⟨key, v⟩ := first
    rw [Json.membersWritable, Bool.and_eq_true] at h
    rcases List.mem_cons.mp hm with rfl | hm
    · exact h.1
    · exact ih h.2 hm

/-- A snapshot with a canonical text has no integer with too many digits. -/
theorem Facts.hasWritableIntegers_of_toJson
    {f : Facts}
    (h : f.toJson.isWritable = true) :
    f.HasWritableIntegers := by
  simp only [toJson, Json.isWritable, Json.membersWritable, Bool.and_eq_true] at h
  obtain ⟨-, -, -, -, -, hupgrade, hwithdrawal, -, horacle, hparameters, -⟩ := h
  constructor
  · intro n hn
    obtain ⟨u, hu, hdelay⟩ := Option.bind_eq_some_iff.mp hn
    rw [hu] at hupgrade
    simp only [Json.ofOption, UpgradeFacts.toJson, Json.isWritable, Json.membersWritable,
      Bool.and_eq_true, hdelay] at hupgrade
    exact hupgrade.1
  · intro n hn
    obtain ⟨w, hw, hdelay⟩ := Option.bind_eq_some_iff.mp hn
    rw [hw] at hwithdrawal
    simp only [Json.ofOption, WithdrawalFacts.toJson, Json.isWritable, Json.membersWritable,
      Bool.and_eq_true, hdelay] at hwithdrawal
    exact hwithdrawal.1
  · intro n hn
    obtain ⟨o, ho, hbound⟩ := Option.bind_eq_some_iff.mp hn
    rw [ho] at horacle
    simp only [Json.ofOption, OracleFacts.toJson, Json.isWritable, Json.membersWritable,
      Bool.and_eq_true, hbound] at horacle
    exact horacle.2.2.1
  · intro name n hn
    obtain ⟨p, hp, hint⟩ := Option.map_eq_some_iff.mp hn
    have hmem : (p.1, p.2.toJson) ∈ f.parameters.map fun p => (p.1, p.2.toJson) :=
      List.mem_map.mpr ⟨p, List.mem_of_find?_eq_some hp, rfl⟩
    have hwritable := Json.isWritable_of_mem hparameters hmem
    rw [hint] at hwritable
    exact hwritable

theorem Facts.isWritable_toJson_iff
    {f : Facts} :
    f.toJson.isWritable = true ↔ f.reference?.isSome = true := by
  unfold reference? canonicalText? Json.write?
  split <;> simp [*]

namespace Check

variable {f : Facts} {bound : Nat}

theorem settles_anchorFreshness
    (hbound : bound ≤ Duration.maxSeconds) :
    (anchorFreshness bound f).Settles := by
  unfold anchorFreshness
  cases f.anchor with
  | none => exact settles_ok rfl
  | some anchor =>
    obtain ⟨age, hage, hoverdue⟩ := f.exists_ageOf anchor.timestamp hbound
    refine settles_bind hage ?_
    cases age with
    | ahead lead => exact settles_ok rfl
    | overdue age bound => exact settles_bind (heldDuration_eq_ok (hoverdue age bound rfl)) (settles_ok rfl)
    | recent age => exact settles_ok rfl

theorem settles_liveness
    (role : String)
    (o : Option OperatorFacts)
    (hbound : bound ≤ Duration.maxSeconds) :
    (liveness role bound f o).Settles := by
  unfold liveness
  cases o.bind OperatorFacts.lastActivity with
  | none => exact settles_ok rfl
  | some moment =>
    obtain ⟨age, hage, -⟩ := f.exists_ageOf moment hbound
    refine settles_bind hage ?_
    cases age <;> exact settles_ok rfl

theorem settles_oracleFreshnessBound
    (hf : f.HasWritableIntegers)
    (hmaximum : bound ≤ Duration.maxSeconds) :
    (oracleFreshnessBound bound f).Settles := by
  unfold oracleFreshnessBound
  split
  · exact settles_ok rfl
  · rename_i oracle horacle
    split
    · exact settles_ok rfl
    · rename_i seconds hseconds
      have hwritable := hf.freshnessBound seconds
        (Option.bind_eq_some_iff.mpr ⟨oracle, horacle, hseconds⟩)
      obtain ⟨shown, hshown⟩ := exists_shownSeconds hwritable
      obtain ⟨maximum, hmost⟩ := exists_shownSeconds (isWritable_of_le_maxSeconds hmaximum)
      split
      · exact settles_bind hshown (settles_bind hmost (settles_ok rfl))
      · exact settles_ok rfl

theorem settles_oracleStaleness
    (hf : f.HasWritableIntegers) :
    (oracleStaleness f).Settles := by
  unfold oracleStaleness
  split
  · exact settles_ok rfl
  · rename_i oracle horacle
    split
    · rename_i update seconds hupdate hseconds
      have hlead : (-(f.elapsedSince update)).IsHeld := Duration.isHeld_neg_sub_instant _ _
      have hwritable := hf.freshnessBound seconds
        (Option.bind_eq_some_iff.mpr ⟨oracle, horacle, hseconds⟩)
      obtain ⟨shown, hshown⟩ := exists_shownSeconds hwritable
      dsimp only
      split
      · exact settles_bind (heldDuration_eq_ok hlead) (settles_ok rfl)
      · split
        · exact settles_bind hshown (settles_ok rfl)
        · exact settles_ok rfl
    · exact settles_ok rfl

theorem shownGrouped_int
    {n : Int}
    (h : Text.isWritable n = true) :
    (Quantity.int n).shownGrouped = .ok (Text.groupedText n) := by
  unfold Quantity.shownGrouped
  exact if_pos h

/-- A parameter that is no quantity is told so; an integer has few enough digits. -/
theorem quantity_spec
    {name : String}
    (hinteger : ∀ n, f.parameter? name = some (.int n) → Text.isWritable n = true) :
    (∃ o, quantity f name = .inr o ∧ o.internalError = false) ∨
      ∃ q, quantity f name = .inl q ∧ (∃ s, q.shown = .ok s) ∧ ∃ s, q.shownGrouped = .ok s := by
  unfold quantity
  split
  · exact .inl ⟨_, rfl, rfl⟩
  · rename_i n hn
    have hwritable := hinteger n hn
    refine .inr ⟨.int n, rfl, ?_, _, shownGrouped_int hwritable⟩
    unfold Quantity.shown
    exact exists_shownInt hwritable
  · exact .inr ⟨_, rfl, ⟨_, rfl⟩, _, rfl⟩
  · exact .inl ⟨_, rfl, rfl⟩
  · exact .inl ⟨_, rfl, rfl⟩

theorem settles_blockGasLimit
    (hf : f.HasWritableIntegers)
    (name : String)
    (hmaximum : Text.isWritable bound = true) :
    (blockGasLimit name bound f).Settles := by
  have hmost := shownGrouped_int hmaximum
  unfold blockGasLimit
  rcases quantity_spec (hf.parameter name) with ⟨o, ho, herror⟩ | ⟨q, hq, -, shown, hshown⟩
  · rw [ho]
    exact settles_ok herror
  · rw [hq]
    dsimp only
    split
    · exact settles_bind hshown (settles_bind hmost (settles_ok rfl))
    · exact settles_ok rfl

theorem settles_txRateLimit
    (hf : f.HasWritableIntegers)
    (name : String)
    (hmaximum : Text.isWritable bound = true) :
    (txRateLimit name bound f).Settles := by
  obtain ⟨most, hmost⟩ := exists_shownInt hmaximum
  unfold txRateLimit
  rcases quantity_spec (hf.parameter name) with ⟨o, ho, herror⟩ | ⟨q, hq, ⟨shown, hshown⟩, -⟩
  · rw [ho]
    exact settles_ok herror
  · rw [hq]
    dsimp only
    split
    · exact settles_ok rfl
    · split
      · exact settles_bind hshown (settles_bind hmost (settles_ok rfl))
      · exact settles_ok rfl

theorem settles_confirmationDepth
    (hf : f.HasWritableIntegers)
    (name : String)
    (hminimum : Text.isWritable bound = true) :
    (confirmationDepth name bound f).Settles := by
  obtain ⟨least, hleast⟩ := exists_shownInt hminimum
  unfold confirmationDepth
  rcases quantity_spec (hf.parameter name) with ⟨o, ho, herror⟩ | ⟨q, hq, ⟨shown, hshown⟩, -⟩
  · rw [ho]
    exact settles_ok herror
  · rw [hq]
    dsimp only
    split
    · exact settles_bind hshown (settles_bind hleast (settles_ok rfl))
    · exact settles_ok rfl

theorem settles_exitWindow
    (hf : f.HasWritableIntegers)
    (criticalSeconds : Nat)
    (hminimum : bound ≤ Duration.maxSeconds) :
    (exitWindow bound criticalSeconds f).Settles := by
  unfold exitWindow
  split
  · exact settles_ok rfl
  · rename_i delay hdelay
    obtain ⟨shown, hshown⟩ := exists_shownSeconds (hf.upgradeDelay delay hdelay)
    obtain ⟨minimum, hleast⟩ := exists_shownSeconds (isWritable_of_le_maxSeconds hminimum)
    refine settles_bind hshown ?_
    split
    · exact settles_ok rfl
    · exact settles_bind hleast (settles_ok rfl)

theorem settles_exitWindowCoversWithdrawal
    (hf : f.HasWritableIntegers) :
    (exitWindowCoversWithdrawal f).Settles := by
  unfold exitWindowCoversWithdrawal
  split
  · exact settles_ok rfl
  · rename_i upgrade hupgrade
    split
    · exact settles_ok rfl
    · rename_i withdrawal hwithdrawal
      obtain ⟨shown, hshown⟩ := exists_shownSeconds (hf.upgradeDelay upgrade hupgrade)
      obtain ⟨needed, hneeded⟩ := exists_shownSeconds (hf.withdrawalDelay withdrawal hwithdrawal)
      split
      · exact settles_bind hshown (settles_bind hneeded (settles_ok rfl))
      · exact settles_ok rfl

theorem settles_pendingActivation
    (f : Facts)
    (hnotice : bound ≤ Duration.maxSeconds) :
    (pendingActivation bound f).Settles := by
  unfold pendingActivation
  split
  · exact settles_ok rfl
  · split
    · exact settles_ok rfl
    · split
      · exact settles_ok rfl
      · split
        · exact settles_ok rfl
        · rename_i pending _ _ scheduled _
          have hsince : (-(scheduled - f.observedAt)).IsHeld := Duration.isHeld_neg_sub_instant _ _
          have hheld := heldDuration_eq_ok (Duration.isHeld_ofSeconds hnotice)
          unfold scheduledActivation
          split
          · exact settles_bind (heldDuration_eq_ok hsince) (settles_ok rfl)
          · refine settles_bind hheld ?_
            split <;> exact settles_ok rfl

theorem settles_withdrawalDelay
    (hf : f.HasWritableIntegers)
    (hmaximum : bound ≤ Duration.maxSeconds) :
    (withdrawalDelay bound f).Settles := by
  unfold withdrawalDelay
  split
  · exact settles_ok rfl
  · rename_i delay hdelay
    obtain ⟨shown, hshown⟩ := exists_shownSeconds (hf.withdrawalDelay delay hdelay)
    obtain ⟨maximum, hmost⟩ := exists_shownSeconds (isWritable_of_le_maxSeconds hmaximum)
    split
    · exact settles_bind hshown (settles_bind hmost (settles_ok rfl))
    · exact settles_ok rfl

/-- That both amounts of the coverage check are known and the product of the pending withdrawals and
the ratio overflows. -/
def CoverageOverflows (ratio : Decimal) (f : Facts) : Prop :=
  ∃ w liquidity pending, f.withdrawal = some w ∧ w.liquidity = some liquidity ∧
    w.pendingTotal = some pending ∧ pending.ProductOverflows ratio

/-- The coverage check settles unless it overflows. -/
theorem withdrawalLiquidity_settles_or
    (ratio : Decimal)
    (f : Facts) :
    (withdrawalLiquidity ratio f).Settles ∧ ¬ CoverageOverflows ratio f ∨
      withdrawalLiquidity ratio f = .error .overflow ∧ CoverageOverflows ratio f := by
  unfold withdrawalLiquidity
  cases hliquidity : f.withdrawal.bind WithdrawalFacts.liquidity with
  | none =>
    refine .inl ⟨settles_ok rfl, ?_⟩
    rintro ⟨w, liquidity, pending, hw, hknown, -⟩
    rw [hw, Option.bind_some, hknown] at hliquidity
    cases hliquidity
  | some liquidity =>
    cases hpending : f.withdrawal.bind WithdrawalFacts.pendingTotal with
    | none =>
      refine .inl ⟨settles_ok rfl, ?_⟩
      rintro ⟨w, liquidity, pending, hw, -, hknown, -⟩
      rw [hw, Option.bind_some, hknown] at hpending
      cases hpending
    | some pending =>
      obtain ⟨w, hw, hamount⟩ := Option.bind_eq_some_iff.mp hliquidity
      rw [hw, Option.bind_some] at hpending
      dsimp only
      cases hproduct : pending.mul? ratio with
      | none =>
        exact .inr ⟨rfl, w, liquidity, pending, hw, hamount, hpending,
          Decimal.mul?_eq_none_iff.mp hproduct⟩
      | some required =>
        refine .inl ⟨?_, ?_⟩
        · dsimp only
          split <;> exact settles_ok rfl
        · rintro ⟨w', liquidity', pending', hw', -, hpending', hoverflow⟩
          have hsame : w' = w := Option.some.inj (hw'.symm.trans hw)
          rw [hsame, hpending] at hpending'
          cases hpending'
          rw [Decimal.mul?_eq_none_iff.mpr hoverflow] at hproduct
          cases hproduct

end Check
end RollupAudit
