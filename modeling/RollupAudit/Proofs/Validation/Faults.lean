import RollupAudit.Proofs.Validation.Fields

/-!
# Faults of checks

A check can find issues and go on, or it can end at once with a fault. The fault of checks that are put
together is the first fault of a part, whatever issues the parts before it have. Simple readings have
no faults, and neither do checks that are put together of such readings.

**Results.**
* `Checked.fault?_ap`: the first fault of two checks wins.
* `Fields.fault?_field`: a field that may be absent or null has the fault of its value.
* `Reading.fault?_fields_eq_some_iff`: a mapping has a fault of its keys or of its fields.
-/

namespace RollupAudit

namespace Checked

variable {ε α β : Type}

/-- The fault that ends a check, if one does. -/
def fault? : Checked ε α → Option ε
  | .aborted e => some e
  | _ => none

@[simp] theorem fault?_accepted
    (a : α) :
    (Checked.accepted a : Checked ε α).fault? = none :=
  rfl

@[simp] theorem fault?_aborted
    (e : ε) :
    (Checked.aborted e : Checked ε α).fault? = some e :=
  rfl

@[simp] theorem fault?_rejected
    (i : Issue)
    (is : List Issue) :
    (Checked.rejected i is : Checked ε α).fault? = none :=
  rfl

@[simp] theorem fault?_map
    (f : α → β)
    (x : Checked ε α) :
    (x.map f).fault? = x.fault? := by
  cases x <;> rfl

@[simp] theorem fault?_under
    (step : PathStep)
    (x : Checked ε α) :
    (x.under step).fault? = x.fault? := by
  cases x <;> rfl

/-- Of two checks together the first fault counts. -/
@[simp] theorem fault?_ap
    (f : Checked ε (α → β))
    (x : Checked ε α) :
    (f.ap x).fault? = f.fault?.or x.fault? := by
  cases f <;> cases x <;> rfl

@[simp] theorem fault?_ofExcept
    (r : Except Cause α) :
    (ofExcept r : Checked ε α).fault? = none := by
  cases r <;> rfl

theorem fault?_eq_some_iff
    {x : Checked ε α} {e : ε} :
    x.fault? = some e ↔ x = .aborted e := by
  cases x <;> simp

theorem fault?_andThen_eq_none
    {x : Checked ε α} {f : α → Checked ε β}
    (hx : x.fault? = none)
    (hf : ∀ a, (f a).fault? = none) :
    (x.andThen f).fault? = none := by
  cases x with
  | accepted a => exact hf a
  | rejected i is => rfl
  | aborted e => cases hx

/-- The items of a list have no fault if no item has one. -/
theorem fault?_items_eq_none
    {f : β → Checked ε α}
    (hf : ∀ v, (f v).fault? = none)
    (vs : List β) :
    (items f vs).fault? = none := by
  have hfrom (position : Nat) : (itemsFrom f position vs).fault? = none := by
    induction vs generalizing position with
    | nil => rfl
    | cons v vs ih => simp [itemsFrom, hf, ih]
  exact hfrom 0

end Checked

namespace Fields

variable {ε α : Type} {es : Entries} {name : String}

@[simp] theorem fault?_scalar
    (read : Value → Except Cause α)
    (v : Value) :
    (scalar read v : Checked ε α).fault? = none :=
  Checked.fault?_ofExcept (read v)

theorem fault?_listOf_eq_none
    {read : Value → Checked ε α}
    (hread : ∀ v, (read v).fault? = none)
    (kind : Cause)
    (v : Value) :
    (listOf kind read v).fault? = none := by
  unfold listOf
  split
  · exact Checked.fault?_items_eq_none hread _
  · rfl

@[simp] theorem fault?_optional
    (es : Entries)
    (name : String)
    (default : α)
    (read : Value → Checked ε α) :
    (optional es name default read).fault? =
      (Value.lookup? name es).bind fun v => (read v).fault? := by
  unfold optional
  cases Value.lookup? name es <;> simp

theorem fault?_required
    (es : Entries)
    (name : String)
    (read : Value → Checked ε α) :
    (required es name read).fault? =
      (Value.lookup? name es).bind fun v => (read v).fault? := by
  unfold required
  cases Value.lookup? name es <;> simp

/-- A part that may be null has the fault of its value, if the value null has none. -/
theorem fault?_nullable
    {read : Value → Checked ε α}
    (hnull : (read .null).fault? = none)
    (v : Value) :
    (nullable read v).fault? = (read v).fault? := by
  cases v with
  | null => exact hnull.symm
  | _ => simp [nullable]

/-- A field that may be absent or null has the fault of its value. -/
theorem fault?_field
    {read : Value → Checked ε α}
    (hnull : (read .null).fault? = none) :
    (field es name read).fault? = (Value.lookup? name es).bind fun v => (read v).fault? := by
  rw [field, fault?_optional]
  simp only [fault?_nullable hnull]

@[simp] theorem fault?_onlyFields
    (names : List String)
    (es : Entries) :
    (onlyFields names es : Checked ε Unit).fault? = none := by
  unfold onlyFields
  split <;> rfl

@[simp] theorem fault?_andCheck
    (x : Checked ε α)
    (also : Checked ε Unit) :
    (andCheck x also).fault? = x.fault?.or also.fault? := by
  simp [andCheck]

end Fields

namespace Reading

open Fields

variable {α : Type} {names : List String} {build : Entries → Check α} {es : Entries}

/-- That the keys of a mapping cannot be names of fields: one of them is no text, or all are texts and
one is the reserved name. -/
inductive KeysBreak (es : Entries) : FactsError → Prop
  | nonText {key : Value} (hkey : key ∈ es.map Prod.fst) (h : key.isText = false) :
    KeysBreak es .nonTextKey
  | reserved (htexts : ∀ key ∈ es.map Prod.fst, key.isText = true)
    (h : .text reservedName ∈ es.map Prod.fst) : KeysBreak es .reservedKey

theorem keyFault?_eq_some_iff
    {e : FactsError} :
    keyFault? es = some e ↔ KeysBreak es e := by
  unfold keyFault?
  cases hany : es.any fun e => !e.1.isText with
  | true =>
    obtain ⟨x, hx, hkey⟩ := List.any_eq_true.mp hany
    have hmem := List.mem_map_of_mem (f := Prod.fst) hx
    have hkey : x.1.isText = false := by simpa using hkey
    rw [if_pos rfl, Option.some.injEq]
    constructor
    · rintro rfl
      exact .nonText hmem hkey
    · rintro (_ | ⟨htexts, -⟩)
      · rfl
      · rw [htexts _ hmem] at hkey
        cases hkey
  | false =>
    have htexts : ∀ key ∈ es.map Prod.fst, key.isText = true := by
      intro key hkey
      obtain ⟨x, hx, rfl⟩ := List.mem_map.mp hkey
      simpa using List.any_eq_false.mp hany x hx
    rw [if_neg Bool.false_ne_true]
    constructor
    · intro h
      split at h
      · rename_i hself
        cases h
        exact .reserved htexts (Value.isSome_lookup?_iff.mp hself)
      · cases h
    · rintro (⟨hkey, h⟩ | ⟨-, hself⟩)
      · rw [htexts _ hkey] at h
        cases h
      · rw [if_pos (Value.isSome_lookup?_iff.mpr hself)]

theorem keyFault?_eq_none_iff :
    keyFault? es = none ↔ ∀ e, ¬ KeysBreak es e := by
  simp only [← keyFault?_eq_some_iff, Option.eq_none_iff_forall_ne_some, ne_eq]

/-- A mapping has a fault of its keys, or of its fields if the keys have none. -/
theorem fault?_fields_eq_some_iff
    {e : FactsError} :
    (fields names build es).fault? = some e ↔
      KeysBreak es e ∨ (∀ e, ¬ KeysBreak es e) ∧ (build es).fault? = some e := by
  unfold fields
  cases hkeys : keyFault? es with
  | some e' =>
    have hbreak := keyFault?_eq_some_iff.mp hkeys
    rw [← keyFault?_eq_some_iff, hkeys, ← keyFault?_eq_none_iff, hkeys]
    simp
  | none =>
    rw [← keyFault?_eq_some_iff, hkeys, ← keyFault?_eq_none_iff, hkeys]
    simp

/-- A snapshot or section that is not accepted fails with its fault, or with its issues. -/
theorem finish_eq_error_iff
    {x : Check α} {e : FactsError}
    (he : e.isMalformed = false) :
    finish x = .error e ↔ x.fault? = some e := by
  cases x with
  | rejected i is =>
    have hissues : .issues i is ≠ e := by
      rintro rfl
      cases he
    simp [finish, hissues]
  | _ => simp [finish]

/-- A section that is not accepted ends the reading. -/
theorem fault?_sealed_eq_none_iff
    {x : Check α} :
    (sealed x).fault? = none ↔ ∃ a, x = .accepted a := by
  cases x <;> simp [sealed, finish]

theorem fault?_sealed_eq_some_iff
    {x : Check α} {e : FactsError}
    (he : e.isMalformed = false) :
    (sealed x).fault? = some e ↔ x.fault? = some e := by
  rw [← finish_eq_error_iff (x := x) he]
  unfold sealed
  cases finish x <;> simp

end Reading
end RollupAudit
