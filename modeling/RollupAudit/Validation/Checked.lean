import RollupAudit.Validation.Issue

/-!
# Checked values

The outcome of checking a value: the value itself, the issues found in it, or a fault that ends the
check at once. Checks of independent parts are put together so that the issues of all of them are
kept in order, while the first fault wins over all issues.
-/

namespace RollupAudit

/-- The outcome of a check: a value, one or more issues, or a fault of the type `ε`. -/
inductive Checked (ε α : Type)
  | accepted (value : α)
  | rejected (first : Issue) (rest : List Issue)
  | aborted (fault : ε)

namespace Checked

variable {ε α β γ : Type}

/-- The check with a function of its value. -/
def map (f : α → β) : Checked ε α → Checked ε β
  | .accepted a => .accepted (f a)
  | .rejected i is => .rejected i is
  | .aborted e => .aborted e

/-- Two checks together: the issues of both, in order, or the first fault. -/
def ap (f : Checked ε (α → β)) (x : Checked ε α) : Checked ε β :=
  match f, x with
  | .aborted e, _ => .aborted e
  | _, .aborted e => .aborted e
  | .accepted f, .accepted a => .accepted (f a)
  | .accepted _, .rejected i is => .rejected i is
  | .rejected i is, .accepted _ => .rejected i is
  | .rejected i is, .rejected j js => .rejected i (is ++ j :: js)

instance : Functor (Checked ε) := ⟨fun f x => x.map f, fun a x => x.map fun _ => a⟩
instance : Pure (Checked ε) := ⟨.accepted⟩
instance : Seq (Checked ε) := ⟨fun f x => f.ap (x ())⟩

@[simp] theorem pure_eq (a : α) : (pure a : Checked ε α) = .accepted a := rfl
@[simp] theorem functor_map_eq (f : α → β) (x : Checked ε α) : f <$> x = x.map f := rfl
@[simp] theorem seq_eq (f : Checked ε (α → β)) (x : Checked ε α) : f <*> x = f.ap x := rfl
@[simp] theorem map_accepted (f : α → β) (a : α) :
    (Checked.accepted a : Checked ε α).map f = .accepted (f a) := rfl

/-- Two checks together accept exactly when both do. -/
theorem ap_eq_accepted_iff {f : Checked ε (α → β)} {x : Checked ε α} {b : β} :
    f.ap x = .accepted b ↔ ∃ g a, f = .accepted g ∧ x = .accepted a ∧ g a = b := by
  cases f <;> cases x <;> simp [ap]

theorem map_eq_accepted_iff {f : α → β} {x : Checked ε α} {b : β} :
    x.map f = .accepted b ↔ ∃ a, x = .accepted a ∧ f a = b := by
  cases x <;> simp [map]

/-- A further check of a checked value. -/
def andThen (x : Checked ε α) (f : α → Checked ε β) : Checked ε β :=
  match x with
  | .accepted a => f a
  | .rejected i is => .rejected i is
  | .aborted e => .aborted e

theorem andThen_eq_accepted_iff {x : Checked ε α} {f : α → Checked ε β} {b : β} :
    x.andThen f = .accepted b ↔ ∃ a, x = .accepted a ∧ f a = .accepted b := by
  cases x <;> simp [andThen]

/-- A check that finds one cause at the value itself. -/
def reject (c : Cause) : Checked ε α :=
  .rejected ⟨[], c⟩ []

/-- The check that a simple reading makes. -/
def ofExcept : Except Cause α → Checked ε α
  | .ok a => .accepted a
  | .error c => reject c

@[simp] theorem ofExcept_eq_accepted_iff {r : Except Cause α} {a : α} :
    (ofExcept r : Checked ε α) = .accepted a ↔ r = .ok a := by
  cases r <;> simp [ofExcept, reject]

/-- The check of a part, with its issues placed below a step. -/
def under (step : PathStep) : Checked ε α → Checked ε α
  | .rejected i is => .rejected (i.under step) (is.map (Issue.under step))
  | x => x

@[simp] theorem under_eq_accepted_iff {step : PathStep} {x : Checked ε α} {a : α} :
    x.under step = .accepted a ↔ x = .accepted a := by
  cases x <;> simp [under]

/-- The checks of the items of a list from a position on, together. -/
def itemsFrom (f : β → Checked ε α) (position : Nat) : List β → Checked ε (List α)
  | [] => .accepted []
  | v :: vs => (((f v).under (.position position)).map List.cons).ap (itemsFrom f (position + 1) vs)

/-- The checks of the items of a list, together. -/
def items (f : β → Checked ε α) (vs : List β) : Checked ε (List α) :=
  itemsFrom f 0 vs

/-- All the issues of a rejected check. -/
def issues : Checked ε α → List Issue
  | .rejected i is => i :: is
  | _ => []

end Checked
end RollupAudit
