import RollupAudit.Proofs.Facts.SharedText
import RollupAudit.Proofs.Rule.Configuration

/-!
# Rules on snapshots that share a canonical text

Of what differs between such snapshots, parameters that are no finite numbers, three rules see
something, and no more than the text of the number: it stands in the detail of an outcome that is
inconclusive either way. All other rules do not look at parameters at all.

**Results.**
* `Check.quantity_of_sameButNonFinite`: what a rule makes of a parameter.
* `Builtin.run_of_sameButNonFinite`: the outcomes of a rule differ in that text at most.
-/

namespace RollupAudit

variable {f g : Facts}

/-- The outcome for a parameter that is no finite number. -/
def Outcome.notFinite (name : String) (x : Binary64) : Outcome :=
  .inconclusive ("parameter '" ++ name ++ "' is not a finite number: " ++ x.text)

/-- That a parameter is no finite number in either of two snapshots: one number in the first, another
in the second. -/
structure Facts.NonFiniteIn (f g : Facts) (name : String) (x y : Binary64) : Prop where
  parameter?_eq : f.parameter? name = some (.float x)
  parameter?_eq' : g.parameter? name = some (.float y)
  isFinite : x.isFinite = false
  isFinite' : y.isFinite = false

/-- That outcomes say of one parameter that it is no finite number, and show the number that it is in
either snapshot. -/
def Outcome.ShowNonFinite (f g : Facts) (o o' : Outcome) : Prop :=
  ∃ name x y, f.NonFiniteIn g name x y ∧ o = notFinite name x ∧ o' = notFinite name y

namespace Check

theorem quantity_nonFinite
    {name : String} {x : Binary64}
    (h : f.parameter? name = some (.float x))
    (hx : x.isFinite = false) :
    quantity f name = .inr (.notFinite name x) := by
  unfold quantity
  rw [h]
  cases x with
  | finite negative rank => cases hx
  | _ => rfl

/-- A parameter comes to the same in both snapshots, or it is no finite number in either. -/
theorem quantity_of_sameButNonFinite
    (h : f.SameButNonFinite g)
    (name : String) :
    quantity g name = quantity f name ∨
      ∃ x y, f.NonFiniteIn g name x y ∧ quantity f name = .inr (.notFinite name x) ∧
        quantity g name = .inr (.notFinite name y) := by
  rcases h.parameters.lookup? name with ⟨hp, hq⟩ | ⟨p, q, hp, hq, rfl | ⟨hpNone, hqNone⟩⟩
  · left
    simp only [quantity, Facts.parameter?, hp, hq]
  · left
    simp only [quantity, Facts.parameter?, hp, hq]
  · obtain ⟨x, rfl, hx⟩ := Parameter.not_isFinite_iff.mp hpNone
    obtain ⟨y, rfl, hy⟩ := Parameter.not_isFinite_iff.mp hqNone
    exact .inr ⟨x, y, ⟨hp, hq, hx, hy⟩, quantity_nonFinite hp hx, quantity_nonFinite hq hy⟩

/-- A check that goes on from a quantity, and gives what the parameter comes to if it is none. -/
theorem eq_or_showNonFinite
    (check : Facts → CheckResult)
    {name : String} {goOn : Quantity → CheckResult}
    (hcheck : ∀ k, check k = (match quantity k name with
      | .inr o => .ok o
      | .inl q => goOn q))
    (h : f.SameButNonFinite g) :
    check g = check f ∨ ∃ o o', check f = .ok o ∧ check g = .ok o' ∧ o.ShowNonFinite f g o' := by
  rw [hcheck, hcheck]
  rcases quantity_of_sameButNonFinite h name with heq | ⟨x, y, hnone, hf, hg⟩
  · left
    rw [heq]
  · right
    rw [hf, hg]
    exact ⟨_, _, rfl, rfl, name, x, y, hnone, rfl, rfl⟩

end Check

namespace Builtin

/-- The rules that look at a parameter. -/
def aboutParameters : List Builtin := [.blockGasLimit, .txRateLimit, .confirmationDepth]

/-- The other rules do not look at parameters. -/
theorem check_withoutParameters
    {b : Builtin}
    (hb : b ∉ aboutParameters)
    (values : b.model.Values)
    (f : Facts) :
    b.check values f.withoutParameters = b.check values f := by
  cases b with
  | blockGasLimit => exact absurd (by decide) hb
  | txRateLimit => exact absurd (by decide) hb
  | confirmationDepth => exact absurd (by decide) hb
  | _ => rfl

/-- The results of a check are the same, or one of the rules about parameters shows the number that a
parameter is. -/
theorem check_of_sameButNonFinite
    (h : f.SameButNonFinite g)
    (b : Builtin)
    (values : b.model.Values) :
    b.check values g = b.check values f ∨
      b ∈ aboutParameters ∧
        ∃ o o', b.check values f = .ok o ∧ b.check values g = .ok o' ∧ o.ShowNonFinite f g o' := by
  by_cases hb : b ∈ aboutParameters
  · refine (show _ ∨ _ from ?_).imp_right (And.intro hb)
    cases b with
    | blockGasLimit =>
      obtain ⟨name, maximum, rest⟩ := values
      exact Check.eq_or_showNonFinite (Check.blockGasLimit name maximum) (fun _ => rfl) h
    | txRateLimit =>
      obtain ⟨name, maximum, rest⟩ := values
      exact Check.eq_or_showNonFinite (Check.txRateLimit name maximum) (fun _ => rfl) h
    | confirmationDepth =>
      obtain ⟨name, minimum, rest⟩ := values
      exact Check.eq_or_showNonFinite (Check.confirmationDepth name minimum) (fun _ => rfl) h
    | _ => exact absurd hb (by decide)
  · left
    rw [← check_withoutParameters hb values g, h.withoutParameters_eq, check_withoutParameters hb]

/-- The outcomes of a rule on snapshots that share a canonical text are the same, or the rule is one
about parameters and shows the number that a parameter is. -/
theorem run_of_sameButNonFinite
    (h : f.SameButNonFinite g)
    (b : Builtin)
    (c : RuleConfig b.model) :
    (b.rule c).run g = (b.rule c).run f ∨
      b ∈ aboutParameters ∧ ((b.rule c).run f).ShowNonFinite f g ((b.rule c).run g) := by
  cases henabled : c.enabled with
  | false =>
    have hrun (k : Facts) : (b.rule c).run k = Rule.disabledOutcome :=
      Rule.run_of_enabled_eq_false henabled k
    exact .inl ((hrun g).trans (hrun f).symm)
  | true =>
    rw [run_rule_of_enabled henabled, run_rule_of_enabled henabled]
    rcases check_of_sameButNonFinite h b c.values with heq | ⟨hb, o, o', hf, hg, hshow⟩
    · exact .inl (by rw [heq])
    · rw [hf, hg]
      exact .inr ⟨hb, hshow⟩

end Builtin
end RollupAudit
