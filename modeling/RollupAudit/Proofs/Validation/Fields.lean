import Mathlib.Data.List.Forall2
import RollupAudit.Proofs.Value.Paths

/-!
# Accepted fields

What it takes for a field, the fields of a section, or the items of a list to be accepted. The rules
hold in both directions: they take an accepted value apart, and they put one together.

**Results.**
* `Fields.nullable_eq_accepted_iff`: a part that may be null.
* `Reading.hasFields_iff`: the keys of a mapping are names of fields.
* `Reading.readSection_eq_accepted_iff`: a section, which has no fields but those named.
* `Checked.items_eq_accepted_iff`: the items of a list.
-/

namespace RollupAudit

namespace Checked

variable {ε α β : Type}

/-- The items of a list are accepted if each of them is. -/
theorem items_eq_accepted_iff
    {f : β → Checked ε α} {vs : List β} {as : List α} :
    items f vs = .accepted as ↔ List.Forall₂ (fun v a => f v = .accepted a) vs as := by
  have hfrom (position : Nat) : itemsFrom f position vs = .accepted as ↔
      List.Forall₂ (fun v a => f v = .accepted a) vs as := by
    induction vs generalizing position as with
    | nil =>
      rw [itemsFrom, Checked.accepted.injEq, List.forall₂_nil_left_iff]
      exact eq_comm
    | cons v vs ih =>
      rw [itemsFrom, ap_eq_accepted_iff, List.forall₂_cons_left_iff]
      constructor
      · rintro ⟨g, bs, hg, hbs, rfl⟩
        obtain ⟨b, hb, rfl⟩ := map_eq_accepted_iff.mp hg
        exact ⟨b, bs, under_eq_accepted_iff.mp hb, (ih (position + 1)).mp hbs, rfl⟩
      · rintro ⟨b, bs, hb, hbs, rfl⟩
        exact ⟨List.cons b, bs, map_eq_accepted_iff.mpr ⟨b, under_eq_accepted_iff.mpr hb, rfl⟩,
          (ih (position + 1)).mpr hbs, rfl⟩
  exact hfrom 0

end Checked

namespace Fields

variable {ε α : Type} {es : Entries} {name : String} {read : Value → Checked ε α} {a : α}

theorem scalar_eq_accepted_iff
    {read : Value → Except Cause α} {v : Value} :
    (scalar read v : Checked ε α) = .accepted a ↔ read v = .ok a :=
  Checked.ofExcept_eq_accepted_iff

theorem optional_eq_accepted_iff
    {default : α} :
    optional es name default read = .accepted a ↔
      (Value.lookup? name es = none ∧ default = a) ∨
        ∃ v, Value.lookup? name es = some v ∧ read v = .accepted a := by
  unfold optional
  cases Value.lookup? name es <;> simp

/-- A field is checked by the value of its name alone. -/
theorem optional_congr
    {es' : Entries} {default : α}
    (h : Value.lookup? name es' = Value.lookup? name es) :
    optional es' name default read = optional es name default read := by
  unfold optional
  rw [h]

theorem required_eq_accepted_iff :
    required es name read = .accepted a ↔
      ∃ v, Value.lookup? name es = some v ∧ read v = .accepted a := by
  unfold required
  cases Value.lookup? name es <;> simp

/-- A part that may be null is none exactly for null. -/
theorem nullable_eq_accepted_iff
    {v : Value} {o : Option α} :
    nullable read v = .accepted o ↔
      (v = .null ∧ o = none) ∨ (v ≠ .null ∧ ∃ a, read v = .accepted a ∧ o = some a) := by
  unfold nullable
  split
  · simp [eq_comm]
  · rename_i hvalue
    have hnull : v ≠ .null := fun h => hvalue h
    rw [Checked.map_eq_accepted_iff]
    simp [hnull, eq_comm]

theorem field_of_lookup?
    {v : Value}
    (hlookup : Value.lookup? name es = some v)
    (hnull : v ≠ .null)
    (hread : read v = .accepted a) :
    field es name read = .accepted (some a) :=
  optional_eq_accepted_iff.mpr
    (.inr ⟨v, hlookup, nullable_eq_accepted_iff.mpr (.inr ⟨hnull, a, hread, rfl⟩)⟩)

/-- A field that takes no null gives what its value is read as. -/
theorem eq_some_iff_of_field_eq_accepted
    {o : Option α}
    (h : field es name read = .accepted o)
    (hnull : read .null ≠ .accepted a) :
    o = some a ↔ ∃ v, Value.lookup? name es = some v ∧ read v = .accepted a := by
  constructor
  · rintro rfl
    rcases optional_eq_accepted_iff.mp h with ⟨-, hnone⟩ | ⟨v, hv, hread⟩
    · cases hnone
    · rcases nullable_eq_accepted_iff.mp hread with ⟨-, hnone⟩ | ⟨-, b, hb, hsome⟩
      · cases hnone
      · cases hsome
        exact ⟨v, hv, hb⟩
  · rintro ⟨v, hv, hread⟩
    have hne : v ≠ .null := by
      rintro rfl
      exact hnull hread
    cases h.symm.trans (field_of_lookup? hv hne hread)
    rfl

/-- What a field holds has the properties of what is accepted for it. -/
theorem field_spec
    {o : Option α} {P : α → Prop}
    (h : field es name read = .accepted o)
    (hread : ∀ {v a}, read v = .accepted a → P a) :
    ∀ a ∈ o, P a := by
  intro a ha
  rw [Option.mem_def] at ha
  subst ha
  rcases optional_eq_accepted_iff.mp h with ⟨-, hnone⟩ | ⟨v, -, hv⟩
  · cases hnone
  · rcases nullable_eq_accepted_iff.mp hv with ⟨-, hnone⟩ | ⟨-, b, hb, hsome⟩
    · cases hnone
    · cases hsome
      exact hread hb

end Fields

namespace Reading

open Fields

variable {α : Type} {names : List String} {build : Entries → Check α} {a : α}

theorem finish_eq_ok_iff
    {x : Check α} :
    finish x = .ok a ↔ x = .accepted a := by
  cases x <;> simp [finish]

theorem sealed_eq_accepted_iff
    {x : Check α} :
    sealed x = .accepted a ↔ x = .accepted a := by
  cases x <;> simp [sealed, finish]

/-- That the keys of a mapping are names of fields. -/
structure HasFields (names : List String) (es : Entries) : Prop where
  keyFault?_eq : keyFault? es = none
  onlyFields_eq : (onlyFields names es : Check Unit) = .accepted ()

/-- The keys of a mapping are names of fields if each of them is the text of one. -/
theorem hasFields_iff
    {es : Entries}
    (hreserved : reservedName ∉ names) :
    HasFields names es ↔ ∀ key ∈ es.map Prod.fst, ∃ name ∈ names, key = .text name := by
  constructor
  · rintro ⟨hfault, honly⟩ key hkey
    obtain ⟨e, he, rfl⟩ := List.mem_map.mp hkey
    have htexts : ¬ (es.any fun e => !e.1.isText) = true := by
      intro h
      rw [keyFault?, if_pos h] at hfault
      cases hfault
    have htext : e.1.isText = true := by
      by_contra hne
      exact htexts (List.any_eq_true.mpr ⟨e, he, by simpa using hne⟩)
    obtain ⟨s, hs⟩ : ∃ s, e.1 = .text s := by
      cases hkind : e.1 with
      | text s => exact ⟨s, rfl⟩
      | _ =>
        rw [hkind] at htext
        cases htext
    refine ⟨s, ?_, hs⟩
    by_contra hname
    have hextra : s ∈ (es.filterMap fun e => keyText? e.1).filter fun k => !names.contains k := by
      refine List.mem_filter.mpr ⟨List.mem_filterMap.mpr ⟨e, he, ?_⟩, by simpa using hname⟩
      rw [hs]
      rfl
    unfold onlyFields at honly
    split at honly
    · rename_i hnone
      rw [hnone] at hextra
      cases hextra
    · cases honly
  · intro hkeys
    have htexts : (es.any fun e => !e.1.isText) = false := by
      rw [List.any_eq_false]
      intro e he
      obtain ⟨name, -, hname⟩ := hkeys e.1 (List.mem_map_of_mem he)
      simp [hname, Value.isText]
    have hself : (Value.lookup? reservedName es).isSome = false := by
      rw [Bool.eq_false_iff]
      intro h
      obtain ⟨name, hmem, hname⟩ := hkeys _ (Value.isSome_lookup?_iff.mp h)
      cases hname
      exact hreserved hmem
    have hextra : ((es.filterMap fun e => keyText? e.1).filter fun k => !names.contains k) = [] := by
      rw [List.filter_eq_nil_iff]
      intro k hk
      obtain ⟨e, he, hkeyText⟩ := List.mem_filterMap.mp hk
      obtain ⟨name, hmem, hname⟩ := hkeys e.1 (List.mem_map_of_mem he)
      rw [hname] at hkeyText
      cases hkeyText
      simpa using hmem
    exact ⟨by rw [keyFault?, htexts, hself]; rfl, by rw [onlyFields, hextra]⟩

/-- The fields of a mapping are accepted if no others are there. -/
theorem fields_eq_accepted_iff
    {es : Entries} :
    fields names build es = .accepted a ↔ HasFields names es ∧ build es = .accepted a := by
  unfold fields
  split
  · rename_i e hfault
    constructor
    · intro h
      cases h
    · rintro ⟨⟨hnone, -⟩, -⟩
      rw [hfault] at hnone
      cases hnone
  · rename_i hfault
    rw [andCheck_eq_accepted_iff]
    exact ⟨fun h => ⟨⟨hfault, h.2⟩, h.1⟩, fun h => ⟨h.2, h.1.2⟩⟩

/-- A section is a mapping with the fields of the section. -/
theorem readSection_eq_accepted_iff
    {model : String} {v : Value} :
    readSection model names build v = .accepted a ↔
      ∃ es, v = .mapping es ∧ HasFields names es ∧ build es = .accepted a := by
  cases v with
  | mapping es => simp [readSection, sealed_eq_accepted_iff, fields_eq_accepted_iff]
  | _ => simp [readSection, Checked.reject]

end Reading
end RollupAudit
