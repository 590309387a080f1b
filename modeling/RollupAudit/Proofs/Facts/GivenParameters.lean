import RollupAudit.Proofs.Facts.Accounts
import RollupAudit.Proofs.Facts.Overrides
import RollupAudit.Proofs.Facts.ParameterWritings

/-!
# Parameters that a document gives

Every snapshot comes from a document: it is read from one, and sections that were built before may be
put into it. The parameters of the snapshot are those that the document gives, name by name, each read
from its own value; which others there are, and in what order, does not matter.

**Results.**
* `Facts.IsReachable.exists_comesFrom`: every snapshot comes from a document.
* `Facts.ComesFrom.parameter?_eq_some_iff`: the value of a parameter is the one that the document gives.
* `Facts.ComesFrom.parameter?_eq_none_iff`: a snapshot lacks the parameters that the document does not
  give.
-/

namespace RollupAudit

open Fields Value

/-- That a document gives a value for the parameter with a name. -/
def Reading.GivesParameter (es : Entries) (name : String) (w : Value) : Prop :=
  ∃ v ps, lookup? "parameters" es = some v ∧ Parameter.pairs v = .ok ps ∧ (.text name, w) ∈ ps

namespace Facts

/-- That a snapshot is read from a document, and sections that were built before are put into it. -/
inductive ComesFrom (es : Entries) : Facts → Prop
  | ofValue {f : Facts} (h : Facts.ofValue (.mapping es) = .ok f) : ComesFrom es f
  | takesSection {f g : Facts} (hf : ComesFrom es f) (h : TakesSection f g) : ComesFrom es g

variable {es : Entries} {f g : Facts} {name : String}

theorem exists_comesFrom_of_ofValue
    {v : Value}
    (h : Facts.ofValue v = .ok f) :
    ∃ es, ComesFrom es f := by
  obtain ⟨es, rfl, -, -⟩ := ofValue_eq_ok_iff.mp h
  exact ⟨es, .ofValue h⟩

/-- Every snapshot comes from a document. -/
theorem IsReachable.exists_comesFrom
    (h : f.IsReachable) :
    ∃ es, ComesFrom es f := by
  induction h with
  | ofValue h => exact exists_comesFrom_of_ofValue h
  | takesSection _ h ih =>
    obtain ⟨es, hes⟩ := ih
    exact ⟨es, hes.takesSection h⟩
  | override _ h _ =>
    obtain ⟨v, hv⟩ := exists_ofValue_of_override h
    exact exists_comesFrom_of_ofValue hv

/-- The parameters of a snapshot are read from the document that it comes from. -/
theorem ComesFrom.parameters
    (h : ComesFrom es f) :
    (optional es "parameters" [] Parameter.readAll : Reading.Check _) = .accepted f.parameters := by
  induction h with
  | ofValue h =>
    obtain ⟨_, ⟨⟩, -, hgives⟩ := ofValue_eq_ok_iff.mp h
    exact hgives.parameters
  | takesSection _ h ih => cases h <;> exact ih

/-- The names and values that a document gives are read as the parameters of the snapshot, one by one
in an order of their own. -/
theorem ComesFrom.exists_forall₂_isReadAs
    (h : ComesFrom es f) :
    ∃ given ps, (∀ name w, Reading.GivesParameter es name w ↔ (.text name, w) ∈ given) ∧
      List.Forall₂ Parameter.IsReadAs given ps ∧ ps.Perm f.parameters ∧
        Parameter.IsNamed f.parameters := by
  rcases optional_eq_accepted_iff.mp h.parameters with ⟨hnone, hempty⟩ | ⟨v, hv, hread⟩
  · rw [← hempty]
    refine ⟨[], [], fun name w => iff_of_false ?_ List.not_mem_nil, .nil, .refl [], by simp, by simp,
      by simp⟩
    rintro ⟨v, _, hv, -⟩
    cases hnone.symm.trans hv
  · obtain ⟨given, hgiven, hnamed, ps, hps, hperm⟩ := Parameter.readAll_eq_accepted_iff.mp hread
    refine ⟨given, ps, fun name w => ⟨?_, fun hmem => ⟨v, given, hv, hgiven, hmem⟩⟩, hps, hperm, hnamed⟩
    rintro ⟨v', given', hv', hgiven', hmem⟩
    cases hv.symm.trans hv'
    cases hgiven.symm.trans hgiven'
    exact hmem

/-- The value of a parameter is what the value that the document gives for it is read as. -/
theorem ComesFrom.parameter?_eq_some_iff
    {p : Parameter}
    (h : ComesFrom es f) :
    f.parameter? name = some p ↔
      ∃ w, Reading.GivesParameter es name w ∧
        (Parameter.ofValue w : Reading.Check Parameter) = .accepted p := by
  obtain ⟨given, ps, hgives, hread, hperm, hnamed⟩ := h.exists_forall₂_isReadAs
  rw [parameter?, Parameter.lookup?_eq_some_iff hnamed, ← hperm.mem_iff]
  constructor
  · intro hmem
    obtain ⟨⟨key, w⟩, hw, hkey, hvalue⟩ :=
      exists_mem_of_forall₂ (List.Forall₂.flip (R := flip _) hread) hmem
    cases hkey
    exact ⟨w, (hgives name w).mpr hw, hvalue⟩
  · rintro ⟨w, hw, hvalue⟩
    obtain ⟨⟨name', q⟩, hq, hkey, hvalue'⟩ :=
      exists_mem_of_forall₂ hread ((hgives name w).mp hw)
    cases hkey
    cases hvalue.symm.trans hvalue'
    exact hq

/-- A snapshot lacks a parameter exactly if the document gives no value for it. -/
theorem ComesFrom.parameter?_eq_none_iff
    (h : ComesFrom es f) :
    f.parameter? name = none ↔ ¬ ∃ w, Reading.GivesParameter es name w := by
  rw [← not_iff_not, not_not, ← ne_eq, Option.ne_none_iff_exists']
  constructor
  · rintro ⟨p, hp⟩
    obtain ⟨w, hw, -⟩ := h.parameter?_eq_some_iff.mp hp
    exact ⟨w, hw⟩
  · rintro ⟨w, hw⟩
    obtain ⟨given, ps, hgives, hread, -⟩ := h.exists_forall₂_isReadAs
    obtain ⟨⟨name', p⟩, -, -, hvalue⟩ :=
      exists_mem_of_forall₂ hread ((hgives name w).mp hw)
    exact ⟨p, h.parameter?_eq_some_iff.mpr ⟨w, hw, hvalue⟩⟩

end Facts
end RollupAudit
