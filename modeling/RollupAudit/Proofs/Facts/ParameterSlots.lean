import Mathlib.Data.List.Perm.Basic
import RollupAudit.Proofs.Facts.Records

/-!
# Slots of parameters

The parameters of a snapshot are read from a mapping with names of any number: each of them is a leaf
that is there or not. The mapping that they are held as has the names in ascending order, whatever
the order in which they were given.

**Results.**
* `Parameter.isNode_parametersSlot`: the parameters are a node.
* `Parameter.readAll_toPairs`: parameters that are listed as pairs are read as from a mapping.
-/

namespace RollupAudit

open Text Fields Value

namespace Parameter

variable {ε : Type} {es ds : Entries} {qs : List (String × Value)} {ps : List (String × Parameter)}
  {name part : String} {names : List String} {w : Value}

def toEntries (ps : List (String × Parameter)) : Entries :=
  ps.map fun p => (.text p.1, p.2.toValue)

theorem toValue_injective : Function.Injective toValue := by
  intro p q heq
  cases p <;> cases q <;> cases heq <;> rfl

theorem toEntries_injective : Function.Injective toEntries := by
  refine List.map_injective_iff.mpr fun p q heq => ?_
  obtain ⟨hname, hvalue⟩ := Prod.mk.inj heq
  exact Prod.ext (Value.text.inj hname) (toValue_injective hvalue)

theorem lookup?_asEntries : Value.lookup? name (asEntries qs) = valueAt? name qs := by
  induction qs with
  | nil => rfl
  | cons q qs ih =>
    simp only [valueAt?] at ih
    by_cases hq : q.1 = name
    · simp [asEntries, Value.lookup?, valueAt?, hq]
    · simpa [asEntries, Value.lookup?, valueAt?, hq] using ih

theorem lookup?_toEntries : Value.lookup? name (toEntries ps) = (lookup? name ps).map toValue := by
  induction ps with
  | nil => rfl
  | cons p ps ih =>
    simp only [lookup?] at ih
    by_cases hp : p.1 = name
    · simp [toEntries, Value.lookup?, lookup?, hp]
    · simpa [toEntries, Value.lookup?, lookup?, hp] using ih

/-- That names are not blank, and each is given once. -/
structure AreNames (names : List String) : Prop where
  notBlank : ∀ name ∈ names, isBlankText name = false
  nodup : names.Nodup

def Admits (es : Entries) : Prop := ∃ names, es.map Prod.fst = names.map .text ∧ AreNames names

/-- That a mapping has names of parameters in ascending order. -/
def IsOrdered (es : Entries) : Prop :=
  ∃ names, es.map Prod.fst = names.map .text ∧ AreNames names ∧ names.Pairwise (· ≤ ·)

/-- Entries whose keys are texts are those of a list with the texts for names. -/
theorem exists_asEntries_of_keys
    (h : es.map Prod.fst = names.map .text) :
    ∃ qs, es = asEntries qs ∧ qs.map Prod.fst = names := by
  induction names generalizing es with
  | nil => exact ⟨[], List.map_eq_nil_iff.mp h, rfl⟩
  | cons name names ih =>
    obtain ⟨⟨key, v⟩, rest, rfl, hkey, hrest⟩ := List.map_eq_cons_iff.mp h
    cases hkey
    obtain ⟨qs, rfl, rfl⟩ := ih hrest
    exact ⟨(name, v) :: qs, rfl, rfl⟩

theorem exists_distinctNames_iff : (∃ qs, distinctNames [] es = .ok qs) ↔ Admits es := by
  constructor
  · rintro ⟨qs, hqs⟩
    obtain ⟨rfl, hnames, hnodup⟩ := distinctNames_eq_ok_iff.mp hqs
    refine ⟨qs.map Prod.fst, by simp [asEntries], ?_, hnodup⟩
    intro name hname
    obtain ⟨q, hq, rfl⟩ := List.mem_map.mp hname
    exact (hnames q hq).1
  · rintro ⟨names, hes, hnames⟩
    obtain ⟨qs, rfl, rfl⟩ := exists_asEntries_of_keys hes
    refine ⟨qs, distinctNames_eq_ok_iff.mpr ⟨rfl, fun q hq => ?_, hnames.nodup⟩⟩
    exact ⟨hnames.notBlank q.1 (List.mem_map_of_mem hq), List.not_mem_nil⟩

theorem admits_setText_iff : Admits (setText part w es) ↔ Admits es ∧ isBlankText part = false := by
  cases hpart : Value.lookup? part es with
  | some v =>
    rw [Admits, Admits, map_fst_setText_of_some hpart, iff_self_and]
    rintro ⟨names, hes, hnames⟩
    have hmem : Value.text part ∈ names.map Value.text := by
      rw [← hes]
      exact isSome_lookup?_iff.mp (by rw [hpart]; rfl)
    exact hnames.notBlank part (by simpa using hmem)
  | none =>
    have hfresh : Value.text part ∉ es.map Prod.fst := by
      rw [← isSome_lookup?_iff, hpart]
      simp
    rw [Admits, Admits, map_fst_setText_of_none hpart]
    constructor
    · rintro ⟨names, hes, hnames⟩
      obtain ⟨front, last, rfl, hfront, hlast⟩ := List.map_eq_append_iff.mp hes.symm
      obtain ⟨name, rfl, hname⟩ := List.map_eq_singleton_iff.mp hlast
      cases hname
      refine ⟨⟨front, hfront.symm, ?_, (List.nodup_append.mp hnames.nodup).1⟩,
        hnames.notBlank part (by simp)⟩
      exact fun name hname => hnames.notBlank name (List.mem_append_left _ hname)
    · rintro ⟨⟨names, hes, hnames⟩, hblank⟩
      have hpart : part ∉ names := by
        intro hmem
        exact hfresh (hes ▸ List.mem_map_of_mem hmem)
      refine ⟨names ++ [part], by simp [hes], fun name hname => ?_, ?_⟩
      · rcases List.mem_append.mp hname with hname | hname
        · exact hnames.notBlank name hname
        · rw [List.mem_singleton.mp hname]
          exact hblank
      · rw [List.nodup_append]
        refine ⟨hnames.nodup, List.nodup_singleton part, fun name hname other hother => ?_⟩
        rw [List.mem_singleton.mp hother]
        rintro rfl
        exact hpart hname

/-- Ordered parameters are known by what each name has. -/
theorem eq_of_lookup
    (hes : IsOrdered es)
    (hds : IsOrdered ds)
    (h : ∀ name, Value.lookup? name es = Value.lookup? name ds) :
    es = ds := by
  obtain ⟨names, hkeys, hnames, hincreasing⟩ := hes
  obtain ⟨names', hkeys', hnames', hincreasing'⟩ := hds
  have hmem : ∀ {es : Entries} {names : List String} (name : String),
      es.map Prod.fst = names.map .text → (name ∈ names ↔ (Value.lookup? name es).isSome = true) := by
    intro es names name hes
    rw [isSome_lookup?_iff, hes, List.mem_map]
    simp
  have hperm : names.Perm names' := by
    refine (List.perm_ext_iff_of_nodup hnames.nodup hnames'.nodup).mpr fun name => ?_
    rw [hmem name hkeys, hmem name hkeys', h name]
  obtain rfl : names = names' :=
    hperm.eq_of_pairwise (fun _ _ _ _ => String.le_antisymm) hincreasing hincreasing'
  exact Reading.entries_ext hnames.nodup hkeys hkeys' fun name _ => h name

/-! ## The slots -/

/-- The slot of a parameter, which may be left out. -/
def parameterSlot : Slot := fun x y =>
  Reading.noSlot x y ∨ Reading.slot none (ofValue : Value → Reading.Check Parameter) toValue x y

theorem faithful_parameter :
    Reading.Faithful (ofValue : Value → Reading.Check Parameter) toValue where
  kept _ := ofValue_toValue _
  eq_of_write _ heq := toValue_injective heq

theorem isLeaf_parameter :
    (Reading.slot none (ofValue : Value → Reading.Check Parameter) toValue).IsLeaf :=
  Reading.isLeaf_slot faithful_parameter (by simp) nofun

theorem isLeaf_parameterSlot : parameterSlot.IsLeaf where
  functional := by
    rintro x y y' (h | h) (h' | h')
    · exact Reading.isLeaf_noSlot.functional h h'
    · obtain ⟨rfl, -⟩ := h
      obtain ⟨_, ⟨-, ⟨⟩⟩ | ⟨_, ⟨⟩, -⟩, -⟩ := h'
    · obtain ⟨rfl, -⟩ := h'
      obtain ⟨_, ⟨-, ⟨⟩⟩ | ⟨_, ⟨⟩, -⟩, -⟩ := h
    · exact isLeaf_parameter.functional h h'
  kept := by
    rintro x y (h | h)
    · exact .inl (Reading.isLeaf_noSlot.kept h)
    · exact .inr (isLeaf_parameter.kept h)
  scalar := by
    rintro es y (⟨⟨⟩, -⟩ | h)
    exact isLeaf_parameter.scalar h

def parametersLayout : Slot.Layout where
  slot _ := parameterSlot
  Admits := Admits
  Allowed name := isBlankText name = false
  Canonical := IsOrdered
  admits_setText := admits_setText_iff
  admits_of_canonical := fun ⟨names, hes, hnames, _⟩ => ⟨names, hes, hnames⟩
  eq_of_lookup := eq_of_lookup

/-- That a parameter is read from a name and its value. -/
def IsRead (q : String × Value) (p : String × Parameter) : Prop :=
  (ofValue q.2 : Reading.Check Parameter) = .accepted p.2 ∧ p.1 = q.1

/-- Parameters are read from a mapping with their names, one by one in the order of the names. -/
theorem readAll_mapping_eq_accepted_iff :
    (readAll (.mapping es) : Reading.Check _) = .accepted ps ↔
      ∃ qs, distinctNames [] es = .ok qs ∧ List.Forall₂ IsRead (byName qs) ps := by
  have hitem : ∀ q p, ((ofValue q.2 : Reading.Check Parameter).under (.position 1)).map (q.1, ·) =
      .accepted p ↔ IsRead q p := by
    intro q p
    rw [Checked.map_eq_accepted_iff]
    constructor
    · rintro ⟨a, ha, rfl⟩
      exact ⟨Checked.under_eq_accepted_iff.mp ha, rfl⟩
    · rintro ⟨ha, hname⟩
      exact ⟨p.2, Checked.under_eq_accepted_iff.mpr ha, by rw [← hname]⟩
  have hpairs : (pairs (.mapping es) >>= distinctNames []) = distinctNames [] es := rfl
  rw [readAll, named, hpairs]
  cases distinctNames [] es with
  | error reason => simp [Checked.reject]
  | ok qs =>
    simp only [Except.ok.injEq, exists_eq_left']
    rw [Checked.items_eq_accepted_iff]
    exact ⟨fun h => h.imp fun q p => (hitem q p).mp, fun h => h.imp fun q p => (hitem q p).mpr⟩

/-- A parameter that is read is held by the slot of its name. -/
theorem parameterSlot_of_forall₂
    (h : List.Forall₂ IsRead qs ps)
    (name : String) :
    parameterSlot (valueAt? name qs) ((lookup? name ps).map toValue) := by
  induction h with
  | nil => exact .inl ⟨rfl, rfl⟩
  | @cons q p qs ps hread _ ih =>
    obtain ⟨hvalue, hname⟩ := hread
    simp only [valueAt?, lookup?] at ih
    by_cases hq : q.1 = name
    · have hp : p.1 = name := hname.trans hq
      simp only [valueAt?, lookup?, List.find?_cons, hq, hp, beq_self_eq_true, Option.map_some]
      exact .inr ⟨p.2, .inr ⟨q.2, rfl, hvalue⟩, rfl⟩
    · have hp : ¬ p.1 = name := by rwa [hname]
      simpa [valueAt?, lookup?, hq, hp] using ih

/-- Parameters that are read are ordered, and held by the slots of their names. -/
theorem slots_of_readAll
    (h : (readAll (.mapping es) : Reading.Check _) = .accepted ps) :
    Admits es ∧ IsOrdered (toEntries ps) ∧
      ∀ name, parameterSlot (Value.lookup? name es) (Value.lookup? name (toEntries ps)) := by
  have hnamed := isNamed_of_readAll h
  obtain ⟨qs, hqs, hread⟩ := readAll_mapping_eq_accepted_iff.mp h
  refine ⟨exists_distinctNames_iff.mp ⟨qs, hqs⟩, ?_, fun name => ?_⟩
  · refine ⟨ps.map Prod.fst, by simp [toEntries], ⟨fun name hname => ?_, hnamed.nodup⟩,
      List.pairwise_map.mpr hnamed.increasing⟩
    obtain ⟨p, hp, rfl⟩ := List.mem_map.mp hname
    exact hnamed.notBlank p hp
  · obtain ⟨rfl, -, hnodup⟩ := distinctNames_eq_ok_iff.mp hqs
    rw [lookup?_asEntries, lookup?_toEntries, ← valueAt?_perm (byName_perm qs)
      (((byName_perm qs).map Prod.fst).nodup_iff.mpr hnodup)]
    exact parameterSlot_of_forall₂ hread name

theorem exists_forall₂_isRead
    (h : ∀ q ∈ qs, ∃ p, IsRead q p) :
    ∃ ps, List.Forall₂ IsRead qs ps := by
  induction qs with
  | nil => exact ⟨[], .nil⟩
  | cons q qs ih =>
    obtain ⟨⟨p, hp⟩, hrest⟩ := List.forall_mem_cons.mp h
    obtain ⟨ps, hps⟩ := ih hrest
    exact ⟨p :: ps, .cons hp hps⟩

/-- A mapping with names of parameters is read if every slot has something to hold. -/
theorem exists_readAll
    (hadmits : Admits es)
    (hslots : ∀ name, ∃ y, parameterSlot (Value.lookup? name es) y) :
    ∃ ps, (readAll (.mapping es) : Reading.Check _) = .accepted ps := by
  obtain ⟨qs, hqs⟩ := exists_distinctNames_iff.mpr hadmits
  obtain ⟨rfl, -, hnodup⟩ := distinctNames_eq_ok_iff.mp hqs
  have hread : ∀ q ∈ byName qs, ∃ p, IsRead q p := by
    intro q hq
    obtain ⟨y, hy⟩ := hslots q.1
    rw [lookup?_asEntries, valueAt?_of_mem hnodup ((byName_perm qs).mem_iff.mp hq)] at hy
    rcases hy with ⟨⟨⟩, -⟩ | ⟨p, ⟨⟨⟩, -⟩ | ⟨_, ⟨⟩, hp⟩, -⟩
    exact ⟨(q.1, p), hp, rfl⟩
  obtain ⟨ps, hps⟩ := exists_forall₂_isRead hread
  exact ⟨ps, readAll_mapping_eq_accepted_iff.mpr ⟨qs, hqs, hps⟩⟩

/-- The slot of the parameters, which may be left out. -/
def parametersSlot : Slot :=
  Reading.slot (some []) (readAll : Value → Reading.Check _) fun ps => .mapping (toEntries ps)

theorem faithful_parameters :
    Reading.Faithful (readAll : Value → Reading.Check _) fun ps => .mapping (toEntries ps) where
  kept ha := readAll_mapping (isNamed_of_readAll ha)
  eq_of_write _ heq := toEntries_injective (Value.mapping.inj heq)

theorem readAll_nil : ∀ ps ∈ (some [] : Option (List (String × Parameter))),
    (readAll (.mapping (toEntries ps)) : Reading.Check _) = .accepted ps := by
  rintro _ ⟨⟩
  exact readAll_mapping ⟨by simp, by simp, by simp⟩

theorem isNode_parametersSlot : parametersSlot.IsNode parametersLayout where
  toSettled := Reading.settled_slot faithful_parameters readAll_nil
  mapping := by
    intro es y
    constructor
    · rintro ⟨ps, ⟨⟨⟩, -⟩ | ⟨_, ⟨⟩, hps⟩, rfl⟩
      exact ⟨toEntries ps, rfl, slots_of_readAll hps⟩
    · rintro ⟨ds, rfl, hadmits, hordered, hslots⟩
      obtain ⟨ps, hps⟩ := exists_readAll hadmits fun name => ⟨_, hslots name⟩
      obtain ⟨-, hordered', hslots'⟩ := slots_of_readAll hps
      have hsame : ds = toEntries ps := eq_of_lookup hordered hordered' fun name =>
        isLeaf_parameterSlot.functional (hslots name) (hslots' name)
      exact ⟨ps, .inr ⟨_, rfl, hps⟩, by rw [hsame]⟩
  absent := by
    rintro y ⟨ps, ⟨-, ⟨⟩⟩ | ⟨_, ⟨⟩, -⟩, rfl⟩
    rfl
  null := by
    rintro y ⟨ps, ⟨⟨⟩, -⟩ | ⟨_, ⟨⟩, hps⟩, rfl⟩
    -- Null is read as a mapping without entries.
    have hnil : (readAll .null : Reading.Check _) = .accepted [] := readAll_nil [] rfl
    rw [hnil] at hps
    cases hps
    rfl

theorem lawful_parametersSlot : parametersSlot.Lawful :=
  .node isNode_parametersSlot fun _ => .leaf isLeaf_parameterSlot

/-- A parameter is found by its name, as each name is given once. -/
theorem lookup?_eq_some_iff
    {p : Parameter}
    (h : IsNamed ps) :
    lookup? name ps = some p ↔ (name, p) ∈ ps := by
  constructor
  · intro hlookup
    obtain ⟨q, hq, rfl⟩ := Option.map_eq_some_iff.mp hlookup
    obtain rfl : q.1 = name := by simpa using List.find?_some hq
    exact List.mem_of_find?_eq_some hq
  · exact fun hmem => valueAt?_of_mem h.nodup hmem

theorem toValue_ne_mapping
    (p : Parameter)
    (es : Entries) :
    p.toValue ≠ .mapping es := by
  cases p <;> simp [toValue]

/-- Parameters as a tuple of names and values. -/
def toPairs (ps : List (String × Parameter)) : Value :=
  .tuple (ps.map fun p => .tuple [.text p.1, p.2.toValue])

/-- Parameters that are listed as pairs are read as from a mapping. -/
theorem readAll_toPairs
    (ps : List (String × Parameter)) :
    (readAll (toPairs ps) : Checked ε _) = readAll (.mapping (toEntries ps)) := by
  have hitems : (ps.map fun p => Value.tuple [.text p.1, p.2.toValue]).mapM pair? =
      some (toEntries ps) := by
    induction ps with
    | nil => rfl
    | cons p ps ih =>
      rw [List.map_cons, List.mapM_cons, ih]
      rfl
  have hpairs : pairs (toPairs ps) = pairs (.mapping (toEntries ps)) := by
    simp only [toPairs, pairs, Value.items?, hitems]
  rw [readAll, readAll, named, named, hpairs]

end Parameter
end RollupAudit
