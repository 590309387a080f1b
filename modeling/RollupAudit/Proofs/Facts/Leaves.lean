import RollupAudit.Proofs.Facts.RoundTrip
import RollupAudit.Proofs.Facts.Slots

/-!
# Slots of simple fields

A field of a section is a slot: it is read with its reading, from a default if nothing is given, and
is held as the document value of what was read. Every reading is faithful to the document values that
it is written with, so that a field that is read again is the same; and no simple reading takes a
mapping, so that a path ends at the field.

**Results.**
* `Reading.isLeaf_slot`: a field with a faithful reading is a leaf.
* `Reading.faithful_instant` and those of the other kinds: the readings are faithful.
-/

namespace RollupAudit

open Fields Value

namespace Reading

variable {α : Type} {read : Value → Check α} {write : α → Value} {default : Option α}
  {x y : Option Value} {a : α}

/-- That what is read is read again from what it is written as, and is known by it. -/
structure Faithful (read : Value → Check α) (write : α → Value) : Prop where
  kept : ∀ {v a}, read v = .accepted a → read (write a) = .accepted a
  eq_of_write : ∀ {v a b}, read v = .accepted a → write a = write b → a = b

/-- That a place gives a part: the default if nothing is there. -/
def Gives (default : Option α) (read : Value → Check α) (x : Option Value) (a : α) : Prop :=
  (x = none ∧ default = some a) ∨ ∃ v, x = some v ∧ read v = .accepted a

/-- The slot of a part that is read and written. -/
def slot (default : Option α) (read : Value → Check α) (write : α → Value) : Slot :=
  fun x y => ∃ a, Gives default read x a ∧ y = some (write a)

theorem Gives.functional
    {b : α}
    (ha : Gives default read x a)
    (hb : Gives default read x b) :
    a = b := by
  rcases ha with ⟨rfl, ha⟩ | ⟨v, rfl, ha⟩
  · rcases hb with ⟨-, hb⟩ | ⟨_, ⟨⟩, -⟩
    exact Option.some.inj (ha.symm.trans hb)
  · rcases hb with ⟨⟨⟩, -⟩ | ⟨_, ⟨⟩, hb⟩
    rw [ha] at hb
    cases hb
    rfl

variable (h : Faithful read write) (hdefault : ∀ d ∈ default, read (write d) = .accepted d)

include h hdefault

theorem Gives.kept (ha : Gives default read x a) : read (write a) = .accepted a := by
  rcases ha with ⟨-, ha⟩ | ⟨v, -, ha⟩
  · exact hdefault a ha
  · exact h.kept ha

/-- What a place gives is known by what it is written as. -/
theorem slot_write_iff : slot default read write x (some (write a)) ↔ Gives default read x a := by
  constructor
  · rintro ⟨b, hb, heq⟩
    have hsame := h.eq_of_write (hb.kept h hdefault) (Option.some.inj heq).symm
    rwa [← hsame]
  · exact fun ha => ⟨a, ha, rfl⟩

theorem settled_slot : (slot default read write).Settled where
  functional := by
    rintro x y y' ⟨a, ha, rfl⟩ ⟨b, hb, rfl⟩
    rw [ha.functional hb]
  kept := by
    rintro x y ⟨a, ha, rfl⟩
    exact ⟨a, .inr ⟨_, rfl, ha.kept h hdefault⟩, rfl⟩

theorem isLeaf_slot
    (hscalar : ∀ es a, read (.mapping es) ≠ .accepted a) :
    (slot default read write).IsLeaf where
  toSettled := settled_slot h hdefault
  scalar := by
    rintro es y ⟨a, ⟨⟨⟩, -⟩ | ⟨_, ⟨⟩, ha⟩, -⟩
    exact hscalar es a ha

omit h hdefault

/-- A part that may be null is read and written faithfully. -/
theorem Faithful.nullable
    (h : Faithful read write)
    (hnull : ∀ a, write a ≠ .null) :
    Faithful (nullable read) (ofOption write) where
  kept := by
    intro v o ho
    rcases nullable_eq_accepted_iff.mp ho with ⟨-, rfl⟩ | ⟨-, a, ha, rfl⟩
    · rfl
    · exact nullable_eq_accepted_iff.mpr (.inr ⟨hnull a, a, h.kept ha, rfl⟩)
  eq_of_write := by
    intro v o p ho heq
    rcases nullable_eq_accepted_iff.mp ho with ⟨-, rfl⟩ | ⟨-, a, ha, rfl⟩
    · cases p with
      | none => rfl
      | some b => exact absurd heq.symm (hnull b)
    · cases p with
      | none => exact absurd heq (hnull a)
      | some b => rw [h.eq_of_write ha heq]

/-- The slot of a part that may be absent or null. -/
def nullableSlot (read : Value → Check α) (write : α → Value) : Slot :=
  slot (some none) (nullable read) (ofOption write)

theorem nullable_null_of_mem : ∀ o ∈ (some none : Option (Option α)),
    Fields.nullable read (ofOption write o) = .accepted o := by
  rintro _ ⟨⟩
  rfl

theorem isLeaf_nullableSlot
    (h : Faithful read write)
    (hnull : ∀ a, write a ≠ .null)
    (hscalar : ∀ es a, read (.mapping es) ≠ .accepted a) :
    (nullableSlot read write).IsLeaf := by
  refine isLeaf_slot (h.nullable hnull) nullable_null_of_mem fun es o ho => ?_
  rcases nullable_eq_accepted_iff.mp ho with ⟨⟨⟩, -⟩ | ⟨-, a, ha, -⟩
  exact hscalar es a ha

variable {es : Entries} {name : String}

theorem optional_iff_gives
    {d : α} :
    optional es name d read = .accepted a ↔ Gives (some d) read (lookup? name es) a := by
  rw [optional_eq_accepted_iff, Gives, Option.some.injEq]

theorem required_iff_gives :
    required es name read = .accepted a ↔ Gives none read (lookup? name es) a := by
  rw [required_eq_accepted_iff, Gives]
  simp

/-! ## The readings of the fields -/

theorem faithful_flag : Faithful (scalar Scalar.readFlag) Value.bool where
  kept _ := rfl
  eq_of_write _ := Value.bool.inj

theorem faithful_text : Faithful (scalar Scalar.readText) Value.text where
  kept _ := rfl
  eq_of_write _ := Value.text.inj

theorem faithful_policy : Faithful policyText Value.text where
  kept ha := (readsBack_policy (policyText_spec ha)).read_eq
  eq_of_write _ := Value.text.inj

theorem faithful_stripped : Faithful stripped Value.text where
  kept ha := (readsBack_stripped (stripped_spec ha)).read_eq
  eq_of_write _ := Value.text.inj

theorem faithful_chainId : Faithful chainId Value.text where
  kept ha := (readsBack_chainId (chainId_spec ha).1 (chainId_spec ha).2).read_eq
  eq_of_write _ := Value.text.inj

theorem faithful_version : Faithful version Value.int where
  kept ha := by
    rw [version_spec ha]
    rfl
  eq_of_write _ := Value.int.inj

theorem faithful_seconds : Faithful (scalar Scalar.readNat) fun n => .int (Int.ofNat n) where
  kept {_ n} _ := (readsBack_seconds n).read_eq
  eq_of_write _ heq := Int.ofNat.inj (Value.int.inj heq)

theorem faithful_amount :
    Faithful (scalar Scalar.readAmount) fun d => .decimal (.finite d) where
  kept {v d} ha := by
    have hamount : (d.negative && !d.isZero) = false := readAmount_spec ha
    rw [scalar_eq_accepted_iff]
    simp [Scalar.readAmount, Scalar.readExtended, bind, Except.bind, hamount]
  eq_of_write _ heq := ExtendedDecimal.finite.inj (Value.decimal.inj heq)

theorem faithful_instant : Faithful instant fun i => .timestamp (.ofInstant i) where
  kept {_ i} _ := by
    show toInstant (.ofInstant i) = _
    rw [toInstant, Timestamp.instant?_ofInstant]
  eq_of_write _ heq := congrArg Timestamp.reading (Value.timestamp.inj heq)

theorem faithful_address : Faithful address fun a => .text a.text where
  kept {_ a} _ := (readsBack_address a).read_eq
  eq_of_write _ heq := Address.text_injective (Value.text.inj heq)

theorem faithful_addresses : Faithful addresses fun as => .tuple (as.map fun a => .text a.text) where
  kept _ := addresses_of_texts rfl
  eq_of_write _ heq := by
    refine List.map_injective_iff.mpr (fun a b hab => ?_) (Value.tuple.inj heq)
    exact Address.text_injective (Value.text.inj hab)

end Reading
end RollupAudit
