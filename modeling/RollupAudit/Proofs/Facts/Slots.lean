import RollupAudit.Proofs.Value.Paths

/-!
# Slots

A slot is a place of a record together with the way it is read: it relates what a document has for
the place, if anything, to what the record then holds there, as the document form of the record shows
it. A leaf takes no mapping. A node takes a mapping and reads it by the slots of its layout, each from
what the mapping has for its name. Reading again what a slot holds changes nothing.

An override sets a value below a slot and reads the slot anew. Its laws are those of an update at a
path, and they are proved once for leaves and nodes of every depth.

**Results.**
* `Slot.Lawful.overrides_of_holds`: an override of what a slot was given is one of what it holds.
* `Slot.Lawful.overrides_overrides_iff`: the later of two overrides at one path counts.
* `Slot.Lawful.overrides_comm`: overrides at paths of which none leads to the other commute.
* `Slot.Lawful.overrides_held`: to override by what is held changes nothing.
-/

namespace RollupAudit

open Value

/-- What a place holds, given what a document has for it. -/
abbrev Slot := Option Value → Option Value → Prop

namespace Slot

/-- The slots of a record by their names, and the mappings that it takes and is held as. -/
structure Layout where
  slot : String → Slot
  Admits : Entries → Prop
  Allowed : String → Prop
  Canonical : Entries → Prop
  admits_setText : ∀ {part w es}, Admits (setText part w es) ↔ Admits es ∧ Allowed part
  admits_of_canonical : ∀ {ds}, Canonical ds → Admits ds
  eq_of_lookup : ∀ {ds ds'}, Canonical ds → Canonical ds' →
    (∀ name, lookup? name ds = lookup? name ds') → ds = ds'

theorem Layout.allowed_of_lookup
    {L : Layout} {part : String} {es : Entries}
    (hadmits : L.Admits es)
    (hpart : lookup? part es ≠ none) :
    L.Allowed part := by
  obtain ⟨w, hw⟩ := Option.ne_none_iff_exists'.mp hpart
  rw [← setText_lookup? hw] at hadmits
  exact (L.admits_setText.mp hadmits).2

/-- That one reading has one result, which is read as itself. -/
structure Settled (S : Slot) : Prop where
  functional : ∀ {x y y'}, S x y → S x y' → y = y'
  kept : ∀ {x y}, S x y → S y y

/-- That a slot takes no mapping. -/
structure IsLeaf (S : Slot) : Prop extends Settled S where
  scalar : ∀ {es y}, ¬ S (some (.mapping es)) y

/-- That a slot reads a mapping by a layout, and holds no entries where none are given. -/
structure IsNode (S : Slot) (L : Layout) : Prop extends Settled S where
  mapping : ∀ {es y}, S (some (.mapping es)) y ↔ ∃ ds, y = some (.mapping ds) ∧ L.Admits es ∧
    L.Canonical ds ∧ ∀ name, L.slot name (lookup? name es) (lookup? name ds)
  absent : ∀ {y}, S none y → opened? y = some []
  null : ∀ {y}, S (some .null) y → opened? y = some []

/-- A leaf, or a node whose slots are lawful. -/
inductive Lawful : Slot → Prop
  | leaf {S : Slot} (h : IsLeaf S) : Lawful S
  | node {S : Slot} {L : Layout} (h : IsNode S L) (hslots : ∀ name, Lawful (L.slot name)) : Lawful S

/-- That a slot that was given `x` holds `y` once the value at a path below it is set. -/
def Overrides (S : Slot) (path : List String) (v : Value) (x y : Option Value) : Prop :=
  ∃ w, Assigns v path x w ∧ S (some w) y

variable {S : Slot} {L : Layout} {path : List String} {part : String} {v : Value}
  {x y z : Option Value}

theorem Lawful.settled (h : Lawful S) : Settled S := by
  cases h with
  | leaf h => exact h.toSettled
  | node h _ => exact h.toSettled

/-- What a slot holds can stand in for what it was given. -/
theorem Settled.holds_iff
    (h : Settled S)
    (hxy : S x y) :
    S y z ↔ S x z := by
  constructor
  · intro hyz
    rwa [h.functional hyz (h.kept hxy)]
  · intro hxz
    rw [h.functional hxz hxy]
    exact h.kept hxy

theorem overrides_nil_iff : Overrides S [] v x y ↔ S (some v) y := by
  constructor
  · rintro ⟨_, ⟨⟩, h⟩
    exact h
  · exact fun h => ⟨v, .here, h⟩

theorem IsLeaf.not_overrides_cons
    (h : IsLeaf S) :
    ¬ Overrides S (part :: path) v x y := by
  rintro ⟨_, ⟨_, _⟩, hy⟩
  exact h.scalar hy

/-- That an override of a part of a mapping makes a node hold a mapping. -/
structure Layout.OverridesPart (L : Layout) (part : String) (path : List String) (v : Value)
    (es ds : Entries) : Prop where
  admits : L.Admits es
  allowed : L.Allowed part
  canonical : L.Canonical ds
  others : ∀ name, name ≠ part → L.slot name (lookup? name es) (lookup? name ds)
  overridden : Overrides (L.slot part) path v (lookup? part es) (lookup? part ds)

/-- An override below a part of a node overrides the slot of the part and reads the other slots. -/
theorem IsNode.overrides_cons_iff
    (h : IsNode S L) :
    Overrides S (part :: path) v x y ↔
      ∃ es ds, opened? x = some es ∧ y = some (.mapping ds) ∧ L.OverridesPart part path v es ds := by
  constructor
  · rintro ⟨_, hassigns, hy⟩
    cases hassigns with
    | inside hopened hrest =>
      rename_i es w
      obtain ⟨ds, hds, hadmits, hcanonical, hslots⟩ := h.mapping.mp hy
      obtain ⟨hes, hallowed⟩ := L.admits_setText.mp hadmits
      refine ⟨es, ds, hopened, hds, hes, hallowed, hcanonical, fun name hname => ?_, w, hrest, ?_⟩
      · have hslot := hslots name
        rwa [lookup?_setText_of_ne hname] at hslot
      · have hslot := hslots part
        rwa [lookup?_setText_self] at hslot
  · rintro ⟨es, ds, hopened, hds, hes, hallowed, hcanonical, hothers, w, hrest, hw⟩
    refine ⟨_, .inside hopened hrest, h.mapping.mpr ⟨ds, hds, L.admits_setText.mpr ⟨hes, hallowed⟩,
      hcanonical, fun name => ?_⟩⟩
    rw [lookup?_setText]
    split
    · rename_i hname
      rw [hname]
      exact hw
    · exact hothers name ‹_›

/-- What is opened of a node that was given something is opened of what it holds: the same entries,
or those that it holds for them. -/
theorem IsNode.opened_of_holds
    (h : IsNode S L)
    {es : Entries}
    (hxy : S x y)
    (hopened : opened? x = some es) :
    opened? y = some es ∨
      ∃ ds, opened? y = some ds ∧ L.Canonical ds ∧
        ∀ name, L.slot name (lookup? name es) (lookup? name ds) := by
  match x, hopened with
  | none, rfl => exact .inl (h.absent hxy)
  | some .null, rfl => exact .inl (h.null hxy)
  | some (.mapping es), rfl =>
    obtain ⟨ds, rfl, -, hcanonical, hslots⟩ := h.mapping.mp hxy
    exact .inr ⟨ds, rfl, hcanonical, hslots⟩

namespace Lawful

/-- An override of what a slot was given is one of what it holds. -/
theorem overrides_of_holds
    (h : Lawful S)
    (hxy : S x y)
    (hxz : Overrides S path v x z) :
    Overrides S path v y z := by
  induction h generalizing path x y z with
  | leaf h =>
    cases path with
    | nil => exact overrides_nil_iff.mpr (overrides_nil_iff.mp hxz)
    | cons part path => exact absurd hxz h.not_overrides_cons
  | node h hslots ih =>
    cases path with
    | nil => exact overrides_nil_iff.mpr (overrides_nil_iff.mp hxz)
    | cons part path =>
      obtain ⟨es, ds, hopened, rfl, hpart⟩ := h.overrides_cons_iff.mp hxz
      -- A part that is absent or null is opened as empty, before it is read and after.
      rcases h.opened_of_holds hxy hopened with hsame | ⟨held, hheld, hcanonical, hholds⟩
      · exact h.overrides_cons_iff.mpr ⟨es, ds, hsame, rfl, hpart⟩
      · refine h.overrides_cons_iff.mpr ⟨held, ds, hheld, rfl, Layout.admits_of_canonical _ hcanonical,
          hpart.allowed, hpart.canonical, fun name hname => ?_, ih part (hholds part) hpart.overridden⟩
        exact ((hslots name).settled.holds_iff (hholds name)).mpr (hpart.others name hname)

/-- The later of two overrides at one path counts. -/
theorem overrides_overrides_iff
    (h : Lawful S)
    {v' : Value}
    (hxy : Overrides S path v x y) :
    Overrides S path v' y z ↔ Overrides S path v' x z := by
  induction h generalizing path x y z with
  | leaf h =>
    cases path with
    | nil => rw [overrides_nil_iff, overrides_nil_iff]
    | cons part path => exact absurd hxy h.not_overrides_cons
  | @node S L h hslots ih =>
    cases path with
    | nil => rw [overrides_nil_iff, overrides_nil_iff]
    | cons part path =>
      obtain ⟨es, ds, hopened, rfl, hpart⟩ := h.overrides_cons_iff.mp hxy
      have hothers : ∀ ds' : Entries, ∀ name, name ≠ part →
          (L.slot name (lookup? name ds) (lookup? name ds') ↔
            L.slot name (lookup? name es) (lookup? name ds')) :=
        fun ds' name hname => (hslots name).settled.holds_iff (hpart.others name hname)
      have hoverridden : ∀ u, Overrides (L.slot part) path v' (lookup? part ds) u ↔
          Overrides (L.slot part) path v' (lookup? part es) u :=
        fun u => ih part hpart.overridden
      rw [h.overrides_cons_iff, h.overrides_cons_iff]
      constructor
      · rintro ⟨_, ds', ⟨⟩, rfl, hpart'⟩
        exact ⟨es, ds', hopened, rfl, hpart.admits, hpart.allowed, hpart'.canonical,
          fun name hname => (hothers ds' name hname).mp (hpart'.others name hname),
          (hoverridden _).mp hpart'.overridden⟩
      · rintro ⟨es', ds', hopened', rfl, hpart'⟩
        obtain rfl : es = es' := Option.some.inj (hopened.symm.trans hopened')
        exact ⟨ds, ds', rfl, rfl, Layout.admits_of_canonical _ hpart.canonical, hpart.allowed,
          hpart'.canonical, fun name hname => (hothers ds' name hname).mpr (hpart'.others name hname),
          (hoverridden _).mpr hpart'.overridden⟩

theorem overrides_functional
    (h : Lawful S)
    (hxy : Overrides S path v x y)
    (hxz : Overrides S path v x z) :
    y = z := by
  obtain ⟨w, hw, hy⟩ := hxy
  obtain ⟨w', hw', hz⟩ := hxz
  rw [hw.functional hw'] at hy
  exact h.settled.functional hy hz

/-- An override comes to the same before and after a reading of the slot. -/
theorem overrides_holds_comm
    (h : Lawful S)
    {x' z' : Option Value}
    (hxy : Overrides S path v x y)
    (hyz : S y z)
    (hxx' : S x x')
    (hxz' : Overrides S path v x' z') :
    z = z' := by
  have hheld : z = y := by
    obtain ⟨w, -, hw⟩ := hxy
    exact h.settled.functional hyz (h.settled.kept hw)
  rw [hheld]
  exact h.overrides_functional (h.overrides_of_holds hxx' hxy) hxz'

/-- Overrides at paths of which none leads to the other have one result in either order. -/
theorem overrides_comm
    (h : Lawful S)
    {path₁ path₂ : List String} {v₁ v₂ : Value} {y₁ y₂ z₁₂ z₂₁ : Option Value}
    (hpath₁ : ¬ path₁ <+: path₂)
    (hpath₂ : ¬ path₂ <+: path₁)
    (h₁ : Overrides S path₁ v₁ x y₁)
    (h₁₂ : Overrides S path₂ v₂ y₁ z₁₂)
    (h₂ : Overrides S path₂ v₂ x y₂)
    (h₂₁ : Overrides S path₁ v₁ y₂ z₂₁) :
    z₁₂ = z₂₁ := by
  induction h generalizing path₁ path₂ x y₁ y₂ z₁₂ z₂₁ with
  | leaf h =>
    cases path₁ with
    | nil => exact absurd List.nil_prefix hpath₁
    | cons part path => exact absurd h₁ h.not_overrides_cons
  | node h hslots ih =>
    cases path₁ with
    | nil => exact absurd List.nil_prefix hpath₁
    | cons part₁ path₁ =>
      cases path₂ with
      | nil => exact absurd List.nil_prefix hpath₂
      | cons part₂ path₂ =>
        obtain ⟨es, ds₁, hopened, rfl, hpart₁⟩ := h.overrides_cons_iff.mp h₁
        obtain ⟨_, ds₁₂, ⟨⟩, rfl, hpart₁₂⟩ := h.overrides_cons_iff.mp h₁₂
        obtain ⟨es', ds₂, hopened', rfl, hpart₂⟩ := h.overrides_cons_iff.mp h₂
        obtain ⟨_, ds₂₁, ⟨⟩, rfl, hpart₂₁⟩ := h.overrides_cons_iff.mp h₂₁
        obtain rfl : es = es' := Option.some.inj (hopened.symm.trans hopened')
        congr 2
        -- Canonical entries are equal name by name, and a name is on both paths, on one, or on none.
        apply Layout.eq_of_lookup _ hpart₁₂.canonical hpart₂₁.canonical
        intro name
        by_cases hname₁ : name = part₁
        · subst hname₁
          by_cases hname₂ : name = part₂
          · -- Both paths go on below one part.
            subst hname₂
            rw [List.cons_prefix_cons, not_and] at hpath₁ hpath₂
            exact ih name (hpath₁ rfl) (hpath₂ rfl) hpart₁.overridden hpart₁₂.overridden
              hpart₂.overridden hpart₂₁.overridden
          · exact (hslots name).overrides_holds_comm hpart₁.overridden
              (hpart₁₂.others name hname₂) (hpart₂.others name hname₂) hpart₂₁.overridden
        · by_cases hname₂ : name = part₂
          · subst hname₂
            exact ((hslots name).overrides_holds_comm hpart₂.overridden
              (hpart₂₁.others name hname₁) (hpart₁.others name hname₁) hpart₁₂.overridden).symm
          · have hsettled := (hslots name).settled
            exact hsettled.functional
              ((hsettled.holds_iff (hpart₁.others name hname₁)).mp (hpart₁₂.others name hname₂))
              ((hsettled.holds_iff (hpart₂.others name hname₂)).mp (hpart₂₁.others name hname₁))

/-- To override what is held at a path by itself changes nothing. -/
theorem overrides_held
    (h : Lawful S)
    (hheld : S x x)
    (hat : at? path x = some v) :
    Overrides S path v x x := by
  induction h generalizing path x with
  | leaf h =>
    cases path with
    | nil =>
      obtain rfl : x = some v := hat
      exact overrides_nil_iff.mpr hheld
    | cons part path =>
      match x, hat with
      | some (.mapping es), _ => exact absurd hheld h.scalar
  | node h hslots ih =>
    cases path with
    | nil =>
      obtain rfl : x = some v := hat
      exact overrides_nil_iff.mpr hheld
    | cons part path =>
      match x, hat with
      | some (.mapping es), hat =>
        obtain ⟨_, ⟨⟩, hadmits, hcanonical, hholds⟩ := h.mapping.mp hheld
        have hallowed := Layout.allowed_of_lookup hadmits (ne_none_of_at? hat)
        exact h.overrides_cons_iff.mpr ⟨es, es, rfl, rfl, hadmits, hallowed, hcanonical,
          fun name _ => hholds name, ih part (hholds part) hat⟩

end Lawful
end Slot
end RollupAudit
