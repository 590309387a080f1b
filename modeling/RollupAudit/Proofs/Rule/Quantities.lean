import Mathlib.Algebra.Order.Field.Power
import Mathlib.Algebra.Order.Ring.Rat
import Mathlib.Tactic.NormNum
import RollupAudit.Proofs.Facts.GivenParameters
import RollupAudit.Proofs.Rule.Totality

/-!
# Rules about quantities

Three rules compare a parameter with a number that the policy sets. The parameter has to be a finite
number, and it is the exact number that is compared: an integer of any size, or the number that the
fields of a floating-point number stand for. A flag counts as no number, although it could be taken
for zero or one.

**Results.**
* `Binary64.exactValue_eq`: the number of the fields in units of the least positive one.
* `Check.quantity_cases`: what a rule makes of a parameter.
* `QuantityRule.exists_judges_check`: the outcome of a rule about a quantity.
* `QuantityRule.run_classifies`: how the three rules classify what a document gives.
-/

namespace RollupAudit

namespace Binary64

/-- The magnitude of the finite number with a rank, by its exponent and its fraction field: the fraction
alone where the exponent field is zero, with a leading one in front of it otherwise. -/
def magnitude (rank : Nat) : ℚ :=
  if rank / 2 ^ 52 = 0 then (rank % 2 ^ 52 : ℕ) * 2 ^ (-1074 : ℤ)
  else (2 ^ 52 + rank % 2 ^ 52 : ℕ) * 2 ^ (((rank / 2 ^ 52 : ℕ) : ℤ) - 1075)

/-- The number that the finite number with a sign and a rank stands for. -/
def exactValue (negative : Bool) (rank : Nat) : ℚ :=
  if negative then -magnitude rank else magnitude rank

theorem cast_unitsPerOne : (unitsPerOne : ℚ) = 2 ^ (1074 : ℤ) := by
  rw [unitsPerOne, Nat.cast_pow, Nat.cast_ofNat, ← zpow_natCast]
  rfl

theorem magnitude_eq (rank : Nat) : magnitude rank = units rank / unitsPerOne := by
  rw [magnitude, units, significand, lastPlace, cast_unitsPerOne, div_eq_mul_inv, ← zpow_neg]
  by_cases hexponent : rank / 2 ^ 52 = 0
  · have hrank : rank < 2 ^ 52 := by omega
    rw [if_pos hexponent, if_pos hrank, hexponent, Nat.mod_eq_of_lt hrank, pow_zero, mul_one]
  · have hplace : ((rank / 2 ^ 52 : ℕ) : ℤ) - 1075 = ((rank / 2 ^ 52 - 1 : ℕ) : ℤ) + -1074 := by omega
    rw [if_neg hexponent, if_neg (by omega), hplace, zpow_add₀ two_ne_zero, zpow_natCast, Nat.cast_mul,
      Nat.cast_pow, Nat.cast_ofNat, mul_assoc]

/-- The number in units of the least positive one. -/
theorem exactValue_eq
    (negative : Bool)
    (rank : Nat) :
    exactValue negative rank = signedUnits negative rank / unitsPerOne := by
  rw [exactValue, signedUnits, magnitude_eq]
  cases negative with
  | false => simp only [Bool.false_eq_true, if_false, Int.ofNat_eq_natCast, Int.cast_natCast]
  | true => simp only [if_true, Int.cast_neg, Int.ofNat_eq_natCast, Int.cast_natCast, neg_div]

end Binary64

namespace Quantity

/-- The number that a quantity is. -/
def value : Quantity → ℚ
  | .int n => n
  | .float negative rank => Binary64.exactValue negative rank

theorem cast_unitsPerOne_pos : (0 : ℚ) < Binary64.unitsPerOne := by
  rw [Binary64.cast_unitsPerOne]
  exact zpow_pos two_pos _

/-- The comparison with an integer is that of the numbers. -/
theorem compareInt_eq_gt_iff
    {q : Quantity} {n : Int} :
    q.compareInt n = .gt ↔ (n : ℚ) < q.value := by
  cases q with
  | int m => rw [compareInt, Int.compare_eq_gt, value, Int.cast_lt]
  | float negative rank =>
    rw [compareInt, Int.compare_eq_gt, value, Binary64.exactValue_eq, lt_div_iff₀ cast_unitsPerOne_pos]
    norm_cast

theorem compareInt_zero_eq_gt_iff
    {q : Quantity} :
    q.compareInt 0 = .gt ↔ 0 < q.value := by
  rw [compareInt_eq_gt_iff, Int.cast_zero]

theorem compareInt_eq_lt_iff
    {q : Quantity} {n : Int} :
    q.compareInt n = .lt ↔ q.value < n := by
  cases q with
  | int m => rw [compareInt, Int.compare_eq_lt, value, Int.cast_lt]
  | float negative rank =>
    rw [compareInt, Int.compare_eq_lt, value, Binary64.exactValue_eq, div_lt_iff₀ cast_unitsPerOne_pos]
    norm_cast

end Quantity

namespace Parameter

/-- That a parameter is a finite number. -/
inductive HasValue : Parameter → ℚ → Prop
  | int (n : Int) : HasValue (.int n) n
  | float (negative : Bool) (rank : Fin finiteRanks) :
    HasValue (.float (.finite negative rank)) (Binary64.exactValue negative rank)

/-- That a parameter is no quantity: a flag, a text, an infinity or what is not a number. -/
inductive IsNoQuantity : Parameter → Prop
  | flag (b : Bool) : IsNoQuantity (.flag b)
  | text (s : String) : IsNoQuantity (.text s)
  | nan : IsNoQuantity (.float .nan)
  | infinite (negative : Bool) : IsNoQuantity (.float (.infinite negative))

theorem HasValue.functional
    {p : Parameter} {x y : ℚ}
    (hx : p.HasValue x)
    (hy : p.HasValue y) :
    x = y := by
  cases hx <;> cases hy <;> rfl

theorem HasValue.not_isNoQuantity
    {p : Parameter} {x : ℚ}
    (h : p.HasValue x) :
    ¬ p.IsNoQuantity := by
  cases h <;> rintro ⟨⟩

end Parameter

/-! ## Rules about quantities -/

/-- A rule about a parameter that is a quantity. -/
inductive QuantityRule
  | gasLimit
  | rateLimit
  | depth
  deriving DecidableEq

namespace QuantityRule

def builtin : QuantityRule → Builtin
  | gasLimit => .blockGasLimit
  | rateLimit => .txRateLimit
  | depth => .confirmationDepth

/-- The name of the parameter that a rule is about. -/
def parameterName : (r : QuantityRule) → r.builtin.model.Values → String
  | gasLimit, ((name : String), _) => name
  | rateLimit, ((name : String), _) => name
  | depth, ((name : String), _) => name

/-- The number that a rule compares the parameter with. -/
def bound : (r : QuantityRule) → r.builtin.model.Values → Nat
  | gasLimit, (_, (maximum : Nat), _) => maximum
  | rateLimit, (_, (maximum : Nat), _) => maximum
  | depth, (_, (minimum : Nat), _) => minimum

/-- That a rule forbids a number under a bound. A rate limit of zero or less is none. -/
def Forbids : QuantityRule → Nat → ℚ → Prop
  | gasLimit, maximum, x => maximum < x
  | rateLimit, maximum, x => x ≤ 0 ∨ maximum < x
  | depth, minimum, x => x < minimum

/-- That an outcome tells what a rule makes of a parameter, if the snapshot has it. -/
structure Judges (r : QuantityRule) (o : Outcome) (p : Option Parameter) (bound : Nat) : Prop where
  notApplicable_iff : o.status = .notApplicable ↔ p = none
  inconclusive_iff : o.status = .inconclusive ↔ ∃ a ∈ p, a.IsNoQuantity
  fail_iff : o.status = .fail ↔ ∃ a ∈ p, ∃ x, a.HasValue x ∧ r.Forbids bound x
  pass_iff : o.status = .pass ↔ ∃ a ∈ p, ∃ x, a.HasValue x ∧ ¬ r.Forbids bound x
  internalError : o.internalError = false

variable {r : QuantityRule} {o : Outcome} {a : Parameter} {x : ℚ} {bound : Nat}

theorem Judges.of_none
    (hstatus : o.status = .notApplicable)
    (herror : o.internalError = false) :
    r.Judges o none bound where
  notApplicable_iff := iff_of_true hstatus rfl
  inconclusive_iff := by simp [hstatus]
  fail_iff := by simp [hstatus]
  pass_iff := by simp [hstatus]
  internalError := herror

theorem Judges.of_isNoQuantity
    (ha : a.IsNoQuantity)
    (hstatus : o.status = .inconclusive)
    (herror : o.internalError = false) :
    r.Judges o (some a) bound where
  notApplicable_iff := by simp [hstatus]
  inconclusive_iff := iff_of_true hstatus ⟨a, rfl, ha⟩
  fail_iff := by
    refine iff_of_false (by simp [hstatus]) ?_
    rintro ⟨_, ⟨⟩, x, hx, -⟩
    exact hx.not_isNoQuantity ha
  pass_iff := by
    refine iff_of_false (by simp [hstatus]) ?_
    rintro ⟨_, ⟨⟩, x, hx, -⟩
    exact hx.not_isNoQuantity ha
  internalError := herror

/-- An outcome that fails a number that the rule forbids, and passes any other, judges it. -/
theorem Judges.of_hasValue
    (ha : a.HasValue x)
    (hstatus : o.status = .fail ∧ r.Forbids bound x ∨ o.status = .pass ∧ ¬ r.Forbids bound x)
    (herror : o.internalError = false) :
    r.Judges o (some a) bound := by
  have hvalue (P : ℚ → Prop) : (∃ b ∈ some a, ∃ y, b.HasValue y ∧ P y) ↔ P x := by
    constructor
    · rintro ⟨_, ⟨⟩, y, hy, h⟩
      rwa [ha.functional hy]
    · exact fun h => ⟨a, rfl, x, ha, h⟩
  have hnone : ¬ ∃ b ∈ some a, b.IsNoQuantity := by
    rintro ⟨_, ⟨⟩, h⟩
    exact ha.not_isNoQuantity h
  rcases hstatus with ⟨hfail, hforbidden⟩ | ⟨hpass, hallowed⟩
  · exact {
      notApplicable_iff := by simp [hfail]
      inconclusive_iff := iff_of_false (by simp [hfail]) hnone
      fail_iff := iff_of_true hfail ((hvalue _).mpr hforbidden)
      pass_iff := iff_of_false (by simp [hfail]) fun h => (hvalue _).mp h hforbidden
      internalError := herror }
  · exact {
      notApplicable_iff := by simp [hpass]
      inconclusive_iff := iff_of_false (by simp [hpass]) hnone
      fail_iff := iff_of_false (by simp [hpass]) fun h => hallowed ((hvalue _).mp h)
      pass_iff := iff_of_true hpass ((hvalue _).mpr hallowed)
      internalError := herror }

end QuantityRule

/-! ## Checks of quantities -/

/-- That a check fails what is forbidden, passes what is not, and is in order. -/
def CheckResult.Decides (result : CheckResult) (forbidden : Prop) : Prop :=
  ∃ o, result = .ok o ∧ (o.status = .fail ∧ forbidden ∨ o.status = .pass ∧ ¬ forbidden) ∧
    o.internalError = false

section Deciding

variable {α : Type} {forbidden : Prop} {x : Except CheckFault α} {a : α} {g : α → CheckResult}

theorem decides_fail
    (h : forbidden)
    (detail : String) :
    CheckResult.Decides (.ok (.fail detail)) forbidden :=
  ⟨_, rfl, .inl ⟨rfl, h⟩, rfl⟩

theorem decides_passed
    (h : ¬ forbidden) :
    CheckResult.Decides (.ok .passed) forbidden :=
  ⟨_, rfl, .inr ⟨rfl, h⟩, rfl⟩

theorem decides_bind
    (hx : x = .ok a)
    (hg : (g a).Decides forbidden) :
    CheckResult.Decides (x >>= g) forbidden := by
  rw [hx]
  exact hg

end Deciding

namespace Quantity

/-- That a quantity can be shown, plainly and with its digits in groups. -/
def IsShown (q : Quantity) : Prop := (∃ s, q.shown = .ok s) ∧ ∃ s, q.shownGrouped = .ok s

end Quantity

namespace Check

variable {f : Facts} {name : String}

/-- A parameter is not there, is no quantity, or is one that can be shown. -/
theorem quantity_cases
    (hinteger : ∀ n, f.parameter? name = some (.int n) → Text.isWritable n = true) :
    (f.parameter? name = none ∧
      ∃ o, quantity f name = .inr o ∧ o.status = .notApplicable ∧ o.internalError = false) ∨
    (∃ a, f.parameter? name = some a ∧ a.IsNoQuantity ∧
      ∃ o, quantity f name = .inr o ∧ o.status = .inconclusive ∧ o.internalError = false) ∨
    ∃ a q, f.parameter? name = some a ∧ a.HasValue q.value ∧ quantity f name = .inl q ∧ q.IsShown := by
  have hspec := quantity_spec hinteger
  unfold quantity at hspec ⊢
  cases hp : f.parameter? name with
  | none => exact .inl ⟨rfl, _, rfl, rfl, rfl⟩
  | some p =>
    right
    rw [hp] at hspec
    cases p with
    | flag b => exact .inl ⟨_, rfl, .flag b, _, rfl, rfl, rfl⟩
    | text s => exact .inl ⟨_, rfl, .text s, _, rfl, rfl, rfl⟩
    | int n =>
      obtain ⟨_, ⟨⟩, -⟩ | ⟨_, ⟨⟩, hshown⟩ := hspec
      exact .inr ⟨.int n, .int n, rfl, .int n, rfl, hshown⟩
    | float x =>
      cases x with
      | nan => exact .inl ⟨_, rfl, .nan, _, rfl, rfl, rfl⟩
      | infinite negative => exact .inl ⟨_, rfl, .infinite negative, _, rfl, rfl, rfl⟩
      | finite negative rank =>
        obtain ⟨_, ⟨⟩, -⟩ | ⟨_, ⟨⟩, hshown⟩ := hspec
        exact .inr ⟨_, .float negative rank, rfl, .float negative rank, rfl, hshown⟩

/-- A check that goes on from a quantity, and gives what the parameter comes to if it is none, judges
the parameter if it decides on each quantity. -/
theorem exists_judges
    {r : QuantityRule} {bound : Nat} {goOn : Quantity → CheckResult} {result : CheckResult}
    (hresult : result = (match quantity f name with
      | .inr o => .ok o
      | .inl q => goOn q))
    (hinteger : ∀ n, f.parameter? name = some (.int n) → Text.isWritable n = true)
    (hgoOn : ∀ q, q.IsShown → (goOn q).Decides (r.Forbids bound q.value)) :
    ∃ o, result = .ok o ∧ r.Judges o (f.parameter? name) bound := by
  rcases quantity_cases hinteger with
    ⟨hp, o, ho, hstatus, herror⟩ | ⟨a, hp, ha, o, ho, hstatus, herror⟩ | ⟨a, q, hp, ha, hq, hshown⟩
  · rw [ho] at hresult
    rw [hp]
    exact ⟨o, hresult, .of_none hstatus herror⟩
  · rw [ho] at hresult
    rw [hp]
    exact ⟨o, hresult, .of_isNoQuantity ha hstatus herror⟩
  · rw [hq] at hresult
    obtain ⟨o, ho, hstatus, herror⟩ := hgoOn q hshown
    rw [hp]
    exact ⟨o, hresult.trans ho, .of_hasValue ha hstatus herror⟩

end Check

namespace QuantityRule

variable {f : Facts}

/-- The check of a rule judges the parameter that the rule is about. -/
theorem exists_judges_check
    (r : QuantityRule)
    {values : r.builtin.model.Values}
    (hbound : Text.isWritable (r.bound values) = true)
    (hinteger : ∀ n, f.parameter? (r.parameterName values) = some (.int n) →
      Text.isWritable n = true) :
    ∃ o, r.builtin.check values f = .ok o ∧
      r.Judges o (f.parameter? (r.parameterName values)) (r.bound values) := by
  cases r with
  | gasLimit =>
    obtain ⟨name, maximum, rest⟩ := values
    refine Check.exists_judges (by rfl) hinteger fun q ⟨_, hq⟩ => ?_
    obtain ⟨shown, hshown⟩ := hq
    split
    · rename_i hgt
      refine decides_bind hshown (decides_bind (Check.shownGrouped_int hbound) ?_)
      exact decides_fail (Quantity.compareInt_eq_gt_iff.mp hgt) _
    · rename_i hle
      exact decides_passed (mt Quantity.compareInt_eq_gt_iff.mpr hle)
  | rateLimit =>
    obtain ⟨name, maximum, rest⟩ := values
    obtain ⟨most, hmost⟩ := exists_shownInt hbound
    refine Check.exists_judges (by rfl) hinteger fun q ⟨hq, _⟩ => ?_
    obtain ⟨shown, hshown⟩ := hq
    split
    · rename_i hnone
      exact decides_fail (.inl (not_lt.mp (mt Quantity.compareInt_zero_eq_gt_iff.mpr hnone))) _
    · rename_i hsome
      have hpositive := Quantity.compareInt_zero_eq_gt_iff.mp (not_not.mp hsome)
      split
      · rename_i hgt
        refine decides_bind hshown (decides_bind hmost ?_)
        exact decides_fail (.inr (Quantity.compareInt_eq_gt_iff.mp hgt)) _
      · rename_i hle
        refine decides_passed ?_
        rintro (h | h)
        · exact absurd h (not_le.mpr hpositive)
        · exact hle (Quantity.compareInt_eq_gt_iff.mpr h)
  | depth =>
    obtain ⟨name, minimum, rest⟩ := values
    obtain ⟨least, hleast⟩ := exists_shownInt hbound
    refine Check.exists_judges (by rfl) hinteger fun q ⟨hq, _⟩ => ?_
    obtain ⟨shown, hshown⟩ := hq
    split
    · rename_i hlt
      refine decides_bind hshown (decides_bind hleast ?_)
      exact decides_fail (Quantity.compareInt_eq_lt_iff.mp hlt) _
    · rename_i hge
      exact decides_passed (mt Quantity.compareInt_eq_lt_iff.mpr hge)

/-- What an enabled rule makes of a snapshot: it is not applicable exactly if the document that the
snapshot comes from gives no parameter of the name that the policy sets. Otherwise the parameter is read
from what the document gives for it. If that is a finite number, the rule compares it exactly with the
number that the policy sets; otherwise the outcome is inconclusive. -/
theorem run_classifies
    (r : QuantityRule)
    {c : RuleConfig r.builtin.model}
    (henabled : c.enabled = true)
    (hreachable : f.IsReachable)
    (hbound : Text.isWritable (r.bound c.values) = true)
    (hinteger : ∀ n, f.parameter? (r.parameterName c.values) = some (.int n) →
      Text.isWritable n = true) :
    (∃ es, Facts.ComesFrom es f) ∧
      ∀ es, Facts.ComesFrom es f →
        let name := r.parameterName c.values
        let outcome := (r.builtin.rule c).run f
        (∀ p, f.parameter? name = some p ↔
          ∃ w, Reading.GivesParameter es name w ∧
            (Parameter.ofValue w : Reading.Check Parameter) = .accepted p) ∧
        (outcome.status = .notApplicable ↔ ¬ ∃ w, Reading.GivesParameter es name w) ∧
        r.Judges outcome (f.parameter? name) (r.bound c.values) := by
  refine ⟨hreachable.exists_comesFrom, fun es hes => ?_⟩
  intro name outcome
  obtain ⟨o, ho, hjudges⟩ := r.exists_judges_check hbound hinteger
  have houtcome : outcome = o := Builtin.run_rule_eq henabled ho
  rw [houtcome]
  refine ⟨fun p => hes.parameter?_eq_some_iff, ?_, hjudges⟩
  rw [hjudges.notApplicable_iff, hes.parameter?_eq_none_iff]

end QuantityRule

/-- A document of a chain whose rate limit is a flag, and whose block gas limit is the floating-point
number 2 ^ 53. -/
def Reading.cappedDocument : Entries := [
  (.text "chain_id", .text "10"),
  (.text "observed_at", .text "2025-03-01T00:00:00Z"),
  (.text "parameters", .mapping [
    (.text "tx_rate_limit", .bool true),
    (.text "block_gas_limit", .float (.finite false ⟨1076 * 2 ^ 52, by decide⟩))])]

/-- What the document denotes. -/
def Facts.cappedChain : Facts where
  chainId := "10"
  observedAt := ⟨63876384000000000, by decide⟩
  parameters := [
    ("block_gas_limit", .float (.finite false ⟨1076 * 2 ^ 52, by decide⟩)),
    ("tx_rate_limit", .flag true)]

theorem Facts.ofValue_cappedDocument :
    Facts.ofValue (.mapping Reading.cappedDocument) = .ok cappedChain := by
  refine ofValue_eq_ok_iff.mpr ⟨_, rfl, ⟨rfl, rfl⟩, rfl,
    Reading.finish_eq_ok_iff.mp (by decide +kernel), Reading.finish_eq_ok_iff.mp (by decide +kernel),
    rfl, rfl, rfl, rfl, rfl, rfl, ?_⟩
  refine Fields.optional_eq_accepted_iff.mpr (.inr ⟨_, rfl, ?_⟩)
  refine Parameter.readAll_eq_accepted_iff.mpr
    ⟨_, rfl, ⟨by decide, by decide, by decide⟩, _, ?_, .swap _ _ []⟩
  exact .cons ⟨rfl, rfl⟩ (.cons ⟨rfl, rfl⟩ .nil)

/-- A limit of 2 ^ 53 exceeds a maximum of one less, and keeps to one of one more, which no
floating-point number is. The flag is not the rate limit one. -/
theorem QuantityRule.run_cappedChain :
    let gas (maximum : Nat) : RuleConfig Builtin.blockGasLimit.model :=
      { values := ("block_gas_limit", maximum, ()) }
    let rate : RuleConfig Builtin.txRateLimit.model := { values := ("tx_rate_limit", (30 : Nat), ()) }
    ((Builtin.blockGasLimit.rule (gas 9007199254740991)).run Facts.cappedChain).status = .fail ∧
      ((Builtin.blockGasLimit.rule (gas 9007199254740993)).run Facts.cappedChain).status = .pass ∧
      ((Builtin.txRateLimit.rule rate).run Facts.cappedChain).status = .inconclusive := by
  intro gas rate
  have hread := Facts.ofValue_cappedDocument
  have hvalue : Binary64.exactValue false (1076 * 2 ^ 52) = 9007199254740992 := by
    norm_num [Binary64.exactValue, Binary64.magnitude]
  have hlimit : (Parameter.float (.finite false ⟨1076 * 2 ^ 52, by decide⟩)).HasValue
      9007199254740992 := by
    rw [← hvalue]
    exact .float false _
  have hjudges (maximum : Nat) (hmaximum : Text.isWritable maximum = true) :=
    ((gasLimit.run_classifies (c := gas maximum) rfl (.ofValue hread) hmaximum (by rintro _ ⟨⟩)).2 _
      (.ofValue hread)).2.2
  have hover : gasLimit.Forbids 9007199254740991 9007199254740992 := by norm_num [Forbids]
  have hunder : ¬ gasLimit.Forbids 9007199254740993 9007199254740992 := by norm_num [Forbids]
  refine ⟨?_, ?_, ?_⟩
  · exact (hjudges _ (by decide +kernel)).fail_iff.mpr ⟨_, rfl, _, hlimit, hover⟩
  · exact (hjudges _ (by decide +kernel)).pass_iff.mpr ⟨_, rfl, _, hlimit, hunder⟩
  · have hjudged := (rateLimit.run_classifies (c := rate) rfl (.ofValue hread) (by decide +kernel)
      (by rintro _ ⟨⟩)).2 _ (.ofValue hread)
    exact hjudged.2.2.inconclusive_iff.mpr ⟨_, rfl, .flag true⟩

end RollupAudit
