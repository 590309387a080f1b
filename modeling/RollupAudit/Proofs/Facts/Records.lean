import Mathlib.Data.List.Nodup
import RollupAudit.Proofs.Facts.Leaves

/-!
# Records

A record is read from a mapping with the names of its fields, and each field by its own slot. The
table of a record lists the slots by their names. A record that fits its table is a node: its layout
admits the names of the table, and what it holds is the document form of the record, with all names
in their order.

**Results.**
* `Reading.IsRecord.faithful`: a record is read again from its document form.
* `Reading.IsRecord.isNode_nullableSlot`: a record that may be absent or null is a node.
-/

namespace RollupAudit

open Fields Value

namespace Reading

/-- The slot of a name that a record does not have. -/
def noSlot : Slot := fun x y => x = none ∧ y = none

theorem isLeaf_noSlot : noSlot.IsLeaf where
  functional := by
    rintro x y y' ⟨-, rfl⟩ ⟨-, rfl⟩
    rfl
  kept := by
    rintro x y ⟨-, rfl⟩
    exact ⟨rfl, rfl⟩
  scalar := by
    rintro es y ⟨⟨⟩, -⟩

def slotIn (table : List (String × Slot)) (name : String) : Slot :=
  (valueAt? name table).getD noSlot

variable {table : List (String × Slot)} {names : List String} {es ds : Entries} {name : String}

theorem slotIn_of_mem
    (hnodup : (table.map Prod.fst).Nodup)
    {e : String × Slot}
    (he : e ∈ table) :
    slotIn table e.1 = e.2 := by
  rw [slotIn, valueAt?_of_mem hnodup he, Option.getD_some]

theorem slotIn_of_not_mem
    (h : name ∉ table.map Prod.fst) :
    slotIn table name = noSlot := by
  rw [slotIn, valueAt?_eq_none_of_not_mem h, Option.getD_none]

theorem lawful_slotIn
    (h : ∀ e ∈ table, e.2.Lawful)
    (name : String) :
    (slotIn table name).Lawful := by
  unfold slotIn valueAt?
  cases hfind : table.find? fun e => e.1 == name with
  | none => exact .leaf isLeaf_noSlot
  | some e => exact h e (List.mem_of_find?_eq_some hfind)

theorem lookup?_eq_none_of_hasFields
    (hreserved : reservedName ∉ names)
    (h : HasFields names es)
    (hname : name ∉ names) :
    lookup? name es = none := by
  rw [← Option.not_isSome_iff_eq_none, isSome_lookup?_iff]
  intro hkey
  obtain ⟨n, hn, heq⟩ := (hasFields_iff hreserved).mp h _ hkey
  cases heq
  exact hname hn

theorem hasFields_of_map_fst_eq
    (hreserved : reservedName ∉ names)
    (h : ds.map Prod.fst = names.map .text) :
    HasFields names ds := by
  rw [hasFields_iff hreserved, h]
  intro key hkey
  obtain ⟨name, hname, rfl⟩ := List.mem_map.mp hkey
  exact ⟨name, hname, rfl⟩

/-- Entries with the same distinct names are known by what each name has. -/
theorem entries_ext
    {ds' : Entries}
    (hnodup : names.Nodup)
    (hds : ds.map Prod.fst = names.map .text)
    (hds' : ds'.map Prod.fst = names.map .text)
    (h : ∀ name ∈ names, lookup? name ds = lookup? name ds') :
    ds = ds' := by
  induction names generalizing ds ds' with
  | nil => rw [List.map_eq_nil_iff.mp hds, List.map_eq_nil_iff.mp hds']
  | cons first names ih =>
    obtain ⟨hfirst, hnames⟩ := List.nodup_cons.mp hnodup
    obtain ⟨⟨_, v⟩, ds, rfl, hkey, hrest⟩ := List.map_eq_cons_iff.mp hds
    obtain ⟨⟨_, v'⟩, ds', rfl, hkey', hrest'⟩ := List.map_eq_cons_iff.mp hds'
    cases hkey
    cases hkey'
    have hv : v = v' := by simpa [lookup?] using h first List.mem_cons_self
    rw [hv, ih hnames hrest hrest']
    intro name hname
    have hne : first ≠ name := fun heq => hfirst (heq ▸ hname)
    simpa [lookup?, hne] using h name (List.mem_cons_of_mem first hname)

def recordLayout (table : List (String × Slot))
    (hreserved : reservedName ∉ table.map Prod.fst)
    (hnodup : (table.map Prod.fst).Nodup) : Slot.Layout where
  slot := slotIn table
  Admits := HasFields (table.map Prod.fst)
  Allowed name := name ∈ table.map Prod.fst
  Canonical ds := ds.map Prod.fst = (table.map Prod.fst).map .text
  admits_setText := by
    intro part w es
    rw [hasFields_iff hreserved, hasFields_iff hreserved]
    constructor
    · intro h
      refine ⟨fun key hkey => h key (mem_map_fst_setText.mpr (.inr hkey)), ?_⟩
      obtain ⟨name, hname, heq⟩ := h _ (mem_map_fst_setText.mpr (.inl rfl))
      cases heq
      exact hname
    · rintro ⟨h, hpart⟩ key hkey
      rcases mem_map_fst_setText.mp hkey with rfl | hkey
      · exact ⟨part, hpart, rfl⟩
      · exact h key hkey
  admits_of_canonical := hasFields_of_map_fst_eq hreserved
  eq_of_lookup hds hds' h := entries_ext hnodup hds hds' fun name _ => h name

def entriesOf : Value → Entries
  | .mapping es => es
  | _ => []

variable {α : Type} {read : Value → Check α} {toValue : α → Value} {v : Value} {a : α}
  {x y : Option Value}

/-- That a record is read and written by the slots of a table. -/
structure IsRecord (read : Value → Check α) (toValue : α → Value) (table : List (String × Slot)) :
    Prop where
  lawful : ∀ e ∈ table, e.2.Lawful
  reserved : reservedName ∉ table.map Prod.fst
  nodup : (table.map Prod.fst).Nodup
  toValue_eq : ∀ a, toValue a = .mapping (entriesOf (toValue a))
  names : ∀ a, (entriesOf (toValue a)).map Prod.fst = (table.map Prod.fst).map .text
  reads : ∀ {v a}, read v = .accepted a ↔ ∃ es, v = .mapping es ∧
    HasFields (table.map Prod.fst) es ∧
      ∀ e ∈ table, e.2 (lookup? e.1 es) (lookup? e.1 (entriesOf (toValue a)))
  complete : ∀ {es ds : Entries}, (∀ e ∈ table, e.2 (lookup? e.1 es) (lookup? e.1 ds)) →
    ∃ a, ∀ name ∈ table.map Prod.fst, lookup? name ds = lookup? name (entriesOf (toValue a))

namespace IsRecord

variable (h : IsRecord read toValue table)

include h

theorem toValue_ne_null (a : α) : toValue a ≠ .null := by
  rw [h.toValue_eq]
  intro heq
  cases heq

/-- A record is read again from its document form, and known by it. -/
theorem faithful : Faithful read toValue where
  kept := by
    intro v a ha
    obtain ⟨es, -, -, hslots⟩ := h.reads.mp ha
    exact h.reads.mpr ⟨_, h.toValue_eq a, hasFields_of_map_fst_eq h.reserved (h.names a),
      fun e he => (h.lawful e he).settled.kept (hslots e he)⟩
  eq_of_write := by
    intro v a b ha heq
    obtain ⟨es, hv, hfields, hslots⟩ := h.reads.mp ha
    rw [heq] at hslots
    have hb : read v = .accepted b := h.reads.mpr ⟨es, hv, hfields, hslots⟩
    rw [ha] at hb
    cases hb
    rfl

/-- A mapping is read and held by the slots of the names in the table. -/
theorem holds_mapping_iff :
    (∃ a, read (.mapping es) = .accepted a ∧ y = some (toValue a)) ↔
      ∃ ds, y = some (.mapping ds) ∧ HasFields (table.map Prod.fst) es ∧
        ds.map Prod.fst = (table.map Prod.fst).map .text ∧
          ∀ name, slotIn table name (lookup? name es) (lookup? name ds) := by
  have hslotIn : ∀ {ds : Entries}, HasFields (table.map Prod.fst) es →
      ds.map Prod.fst = (table.map Prod.fst).map .text →
      ((∀ name, slotIn table name (lookup? name es) (lookup? name ds)) ↔
        ∀ e ∈ table, e.2 (lookup? e.1 es) (lookup? e.1 ds)) := by
    intro ds hfields hnames
    constructor
    · intro hslots e he
      rw [← slotIn_of_mem h.nodup he]
      exact hslots e.1
    · intro hslots name
      by_cases hname : name ∈ table.map Prod.fst
      · obtain ⟨e, he, rfl⟩ := List.mem_map.mp hname
        rw [slotIn_of_mem h.nodup he]
        exact hslots e he
      · rw [slotIn_of_not_mem hname]
        exact ⟨lookup?_eq_none_of_hasFields h.reserved hfields hname,
          lookup?_eq_none_of_hasFields h.reserved (hasFields_of_map_fst_eq h.reserved hnames) hname⟩
  constructor
  · rintro ⟨a, ha, rfl⟩
    obtain ⟨_, ⟨⟩, hfields, hslots⟩ := h.reads.mp ha
    exact ⟨entriesOf (toValue a), congrArg some (h.toValue_eq a), hfields, h.names a,
      (hslotIn hfields (h.names a)).mpr hslots⟩
  · rintro ⟨ds, rfl, hfields, hnames, hslots⟩
    have htable := (hslotIn hfields hnames).mp hslots
    obtain ⟨a, ha⟩ := h.complete htable
    obtain rfl : ds = entriesOf (toValue a) := entries_ext h.nodup hnames (h.names a) ha
    exact ⟨a, h.reads.mpr ⟨es, rfl, hfields, htable⟩, congrArg some (h.toValue_eq a).symm⟩

/-- A record that may be absent or null is a node. -/
theorem isNode_nullableSlot :
    (nullableSlot read toValue).IsNode (recordLayout table h.reserved h.nodup) where
  toSettled := settled_slot (h.faithful.nullable h.toValue_ne_null) nullable_null_of_mem
  mapping := by
    intro es y
    refine Iff.trans ?_ h.holds_mapping_iff
    constructor
    · rintro ⟨o, ⟨⟨⟩, -⟩ | ⟨_, ⟨⟩, ho⟩, rfl⟩
      rcases nullable_eq_accepted_iff.mp ho with ⟨⟨⟩, -⟩ | ⟨-, a, ha, rfl⟩
      exact ⟨a, ha, rfl⟩
    · rintro ⟨a, ha, rfl⟩
      exact ⟨some a, .inr ⟨_, rfl, nullable_eq_accepted_iff.mpr (.inr ⟨by simp, a, ha, rfl⟩)⟩, rfl⟩
  absent := by
    rintro y ⟨o, ⟨-, ho⟩ | ⟨_, ⟨⟩, -⟩, rfl⟩
    cases ho
    rfl
  null := by
    rintro y ⟨o, ⟨⟨⟩, -⟩ | ⟨_, ⟨⟩, ho⟩, rfl⟩
    rcases nullable_eq_accepted_iff.mp ho with ⟨-, rfl⟩ | ⟨hnull, -⟩
    · rfl
    · exact absurd rfl hnull

/-- A record that has to be there is a node. -/
theorem isNode_slot :
    (slot none read toValue).IsNode (recordLayout table h.reserved h.nodup) where
  toSettled := settled_slot h.faithful (by simp)
  mapping := by
    intro es y
    refine Iff.trans ?_ h.holds_mapping_iff
    constructor
    · rintro ⟨a, ⟨⟨⟩, -⟩ | ⟨_, ⟨⟩, ha⟩, rfl⟩
      exact ⟨a, ha, rfl⟩
    · rintro ⟨a, ha, rfl⟩
      exact ⟨a, .inr ⟨_, rfl, ha⟩, rfl⟩
  absent := by
    rintro y ⟨a, ⟨-, ⟨⟩⟩ | ⟨_, ⟨⟩, -⟩, -⟩
  null := by
    rintro y ⟨a, ⟨⟨⟩, -⟩ | ⟨_, ⟨⟩, ha⟩, -⟩
    obtain ⟨_, ⟨⟩, -⟩ := h.reads.mp ha

theorem lawful_nullableSlot : (nullableSlot read toValue).Lawful :=
  .node h.isNode_nullableSlot (lawful_slotIn h.lawful)

theorem lawful_slot : (slot none read toValue).Lawful :=
  .node h.isNode_slot (lawful_slotIn h.lawful)

end IsRecord
end Reading
end RollupAudit
