import Mathlib.Data.List.Forall2
import RollupAudit.Validation.Fields

/-!
# Values in another order

A mapping means the same in whatever order its entries are listed, and so does a value with mappings
anywhere inside. Such values differ only if both hold other values: a flag, a number or a text has one
order.

**Results.**
* `Value.Rearranged.eq_or_isNested`: values in another order are one value or both hold others.
* `Value.Rearranged.rel_sequence?`: lists in another order have their items in another order.
-/

namespace RollupAudit
namespace Value

mutual

/-- That values are one value but for the order of the entries of mappings, at any depth. -/
inductive Rearranged : Value → Value → Prop
  | refl (v : Value) : Rearranged v v
  | list {xs ys : List Value} (h : ItemsRearranged xs ys) : Rearranged (.list xs) (.list ys)
  | tuple {xs ys : List Value} (h : ItemsRearranged xs ys) : Rearranged (.tuple xs) (.tuple ys)
  | set {xs ys : List Value} (h : ItemsRearranged xs ys) : Rearranged (.set xs) (.set ys)
  | mapping {es mid ds : List (Value × Value)} (h : EntriesRearranged es mid) (hperm : mid.Perm ds) :
      Rearranged (.mapping es) (.mapping ds)

/-- That items are the same one by one but for the order of entries inside. -/
inductive ItemsRearranged : List Value → List Value → Prop
  | nil : ItemsRearranged [] []
  | cons {v w : Value} {xs ys : List Value} (h : Rearranged v w) (hs : ItemsRearranged xs ys) :
      ItemsRearranged (v :: xs) (w :: ys)

/-- That entries have the same keys one by one, and the same values but for the order of entries
inside. -/
inductive EntriesRearranged : List (Value × Value) → List (Value × Value) → Prop
  | nil : EntriesRearranged [] []
  | cons (key : Value) {v w : Value} {es ds : List (Value × Value)} (h : Rearranged v w)
      (hs : EntriesRearranged es ds) : EntriesRearranged ((key, v) :: es) ((key, w) :: ds)

end

/-- Whether a value holds other values. -/
def isNested : Value → Bool
  | .list _ | .tuple _ | .set _ | .mapping _ => true
  | _ => false

theorem ItemsRearranged.forall₂ :
    ∀ {xs ys : List Value}, ItemsRearranged xs ys → List.Forall₂ Rearranged xs ys
  | _, _, .nil => .nil
  | _, _, .cons h hs => .cons h hs.forall₂

theorem EntriesRearranged.forall₂ :
    ∀ {es ds : List (Value × Value)}, EntriesRearranged es ds →
      List.Forall₂ (fun e d => d.1 = e.1 ∧ Rearranged e.2 d.2) es ds
  | _, _, .nil => .nil
  | _, _, .cons _ h hs => .cons ⟨rfl, h⟩ hs.forall₂

namespace Rearranged

variable {v w : Value}

/-- Values in another order are one value, or both hold others. -/
theorem eq_or_isNested
    (h : Rearranged v w) :
    v = w ∨ v.isNested = true ∧ w.isNested = true := by
  cases h with
  | refl => exact .inl rfl
  | _ => exact .inr ⟨rfl, rfl⟩

theorem null_iff
    (h : Rearranged v w) :
    v = .null ↔ w = .null := by
  rcases h.eq_or_isNested with rfl | ⟨hv, hw⟩
  · rfl
  · constructor
    · rintro rfl
      cases hv
    · rintro rfl
      cases hw

theorem isMapping_eq
    (h : Rearranged v w) :
    w.isMapping = v.isMapping := by
  cases h <;> rfl

theorem rel_items?
    (h : Rearranged v w) :
    Option.Rel (List.Forall₂ Rearranged) v.items? w.items? := by
  cases h with
  | refl =>
    cases v.items? with
    | none => exact .none
    | some xs => exact .some (List.forall₂_same.mpr fun x _ => .refl x)
  | list h => exact .some h.forall₂
  | tuple h => exact .some h.forall₂
  | set h => exact .none
  | mapping h hperm => exact .none

theorem rel_sequence?
    (h : Rearranged v w) :
    Option.Rel (List.Forall₂ Rearranged) (Fields.sequence? v) (Fields.sequence? w) := by
  cases h with
  | refl =>
    cases Fields.sequence? v with
    | none => exact .none
    | some xs => exact .some (List.forall₂_same.mpr fun x _ => .refl x)
  | list h => exact .some h.forall₂
  | tuple h => exact .some h.forall₂
  | set h => exact .some h.forall₂
  | mapping h hperm => exact .none

end Rearranged
end Value
end RollupAudit
