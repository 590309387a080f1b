import Mathlib.Data.List.Forall2
import RollupAudit.Proofs.Json.RoundTrip
import RollupAudit.Value.Basic

/-!
# Members in the order of their keys

Putting the members of every object in the order of their keys changes no value of a key. A value
whose integers can be written and whose objects have no key twice reads back, in order or not, if no
halves in its texts and keys make a surrogate pair.

**Results.**
* `Json.isReadable_of_isWritable`: what can be written, has distinct keys and is whole reads back.
* `Json.IsReadable.sorted`: what reads back does so with its members in order.
* `Value.lookup?_sortedEntries`: the value of a key of an object with its members in order.
-/

namespace RollupAudit

namespace Json

mutual

/-- That no object in a value has a key twice. -/
def HasDistinctKeys : Json → Prop
  | .array items => ItemsDistinct items
  | .object members => (members.map Prod.fst).Nodup ∧ MembersDistinct members
  | _ => True

/-- That no object in an item has a key twice. -/
def ItemsDistinct : List Json → Prop
  | [] => True
  | v :: vs => HasDistinctKeys v ∧ ItemsDistinct vs

/-- That no object in the value of a member has a key twice. -/
def MembersDistinct : List (String × Json) → Prop
  | [] => True
  | (_, v) :: ms => HasDistinctKeys v ∧ MembersDistinct ms

end

theorem hasDistinctKeys_ofOption
    {α : Type} {f : α → Json} {o : Option α} :
    (ofOption f o).HasDistinctKeys ↔ ∀ a ∈ o, (f a).HasDistinctKeys := by
  cases o with
  | none => simp [ofOption, HasDistinctKeys]
  | some a => simp [ofOption]

theorem itemsDistinct_iff
    {vs : List Json} :
    ItemsDistinct vs ↔ ∀ v ∈ vs, v.HasDistinctKeys := by
  induction vs with
  | nil => simp [ItemsDistinct]
  | cons v vs ih => simp [ItemsDistinct, ih]

theorem membersDistinct_iff
    {ms : List (String × Json)} :
    MembersDistinct ms ↔ ∀ m ∈ ms, m.2.HasDistinctKeys := by
  induction ms with
  | nil => simp [MembersDistinct]
  | cons m ms ih => simp [MembersDistinct, ih]

mutual

/-- Whether no two halves in a text or a key of a value make a surrogate pair. -/
def isWhole : Json → Bool
  | .text s => Text.isWhole s
  | .array items => itemsWhole items
  | .object members => membersWhole members
  | _ => true

/-- Whether no two halves in a text or a key of an item make a surrogate pair. -/
def itemsWhole : List Json → Bool
  | [] => true
  | v :: vs => isWhole v && itemsWhole vs

/-- Whether no two halves in a key, or in the value of a member, make a surrogate pair. -/
def membersWhole : List (String × Json) → Bool
  | [] => true
  | (key, v) :: ms => Text.isWhole key && isWhole v && membersWhole ms

end

mutual

/-- What can be written, has distinct keys and is whole reads back. -/
theorem isReadable_of_isWritable : ∀ {v : Json}, v.isWritable = true → v.HasDistinctKeys →
    v.isWhole = true → v.IsReadable
  | .null => fun _ _ _ => trivial
  | .bool _ => fun _ _ _ => trivial
  | .int n => fun hwritable _ _ => by
    rw [isWritable] at hwritable
    exact hwritable
  | .float _ => fun _ _ _ => trivial
  | .text _ => fun _ _ hwhole => by
    rw [isWhole] at hwhole
    exact hwhole
  | .array items => fun hwritable hkeys hwhole => by
    rw [isWritable] at hwritable
    rw [isWhole] at hwhole
    exact itemsReadable_of_itemsWritable hwritable hkeys hwhole
  | .object members => fun hwritable hkeys hwhole => by
    rw [isWritable] at hwritable
    rw [isWhole] at hwhole
    exact ⟨hkeys.1, membersReadable_of_membersWritable hwritable hkeys.2 hwhole⟩

theorem itemsReadable_of_itemsWritable : ∀ {vs : List Json}, itemsWritable vs = true →
    ItemsDistinct vs → itemsWhole vs = true → ItemsReadable vs
  | [] => fun _ _ _ => trivial
  | v :: vs => fun hwritable hkeys hwhole => by
    rw [itemsWritable, Bool.and_eq_true] at hwritable
    rw [itemsWhole, Bool.and_eq_true] at hwhole
    exact ⟨isReadable_of_isWritable hwritable.1 hkeys.1 hwhole.1,
      itemsReadable_of_itemsWritable hwritable.2 hkeys.2 hwhole.2⟩

theorem membersReadable_of_membersWritable : ∀ {ms : List (String × Json)},
    membersWritable ms = true → MembersDistinct ms → membersWhole ms = true → MembersReadable ms
  | [] => fun _ _ _ => trivial
  | (_, v) :: ms => fun hwritable hkeys hwhole => by
    rw [membersWritable, Bool.and_eq_true] at hwritable
    rw [membersWhole, Bool.and_eq_true, Bool.and_eq_true] at hwhole
    exact ⟨⟨hwhole.1.1, isReadable_of_isWritable hwritable.1 hkeys.1 hwhole.1.2⟩,
      membersReadable_of_membersWritable hwritable.2 hkeys.2 hwhole.2⟩

end

theorem membersReadable_iff
    {ms : List (String × Json)} :
    MembersReadable ms ↔ ∀ m ∈ ms, Text.isWhole m.1 = true ∧ m.2.IsReadable := by
  induction ms with
  | nil => simp [MembersReadable]
  | cons m ms ih => simp [MembersReadable, ih]

theorem perm_sortedByKey
    {α : Type}
    (members : List (String × α)) :
    (sortedByKey members).Perm members :=
  List.mergeSort_perm members _

theorem keys_sortedMembers
    (ms : List (String × Json)) :
    (sortedMembers ms).map Prod.fst = ms.map Prod.fst := by
  induction ms with
  | nil => rfl
  | cons m ms ih => simp [sortedMembers, ih]

theorem nodup_keys_sortedByKey
    {ms : List (String × Json)}
    (h : (ms.map Prod.fst).Nodup) :
    ((sortedByKey (sortedMembers ms)).map Prod.fst).Nodup := by
  rw [((perm_sortedByKey _).map Prod.fst).nodup_iff, keys_sortedMembers]
  exact h

mutual

/-- A value that reads back does so with its members in order. -/
theorem IsReadable.sorted : ∀ {v : Json}, v.IsReadable → v.sorted.IsReadable
  | .null, _ => trivial
  | .bool _, _ => trivial
  | .int _, h => h
  | .float _, _ => trivial
  | .text _, h => h
  | .array _, h => itemsReadable_sorted h
  | .object ms, h => by
    have hmembers := membersReadable_iff.mp (membersReadable_sorted h.2)
    refine ⟨nodup_keys_sortedByKey h.1, membersReadable_iff.mpr fun m hm => ?_⟩
    exact hmembers m ((perm_sortedByKey _).mem_iff.mp hm)

theorem itemsReadable_sorted : ∀ {vs : List Json}, ItemsReadable vs →
    ItemsReadable (sortedItems vs)
  | [], _ => trivial
  | _ :: _, h => ⟨IsReadable.sorted h.1, itemsReadable_sorted h.2⟩

theorem membersReadable_sorted : ∀ {ms : List (String × Json)}, MembersReadable ms →
    MembersReadable (sortedMembers ms)
  | [], _ => trivial
  | (_, _) :: _, h => ⟨⟨h.1.1, IsReadable.sorted h.1.2⟩, membersReadable_sorted h.2⟩

end

/-- The value of a key among members whose values are put in order. -/
theorem valueAt?_sortedMembers
    (key : String)
    (ms : List (String × Json)) :
    valueAt? key (sortedMembers ms) = (valueAt? key ms).map sorted := by
  induction ms with
  | nil => rfl
  | cons m ms ih =>
    simp only [valueAt?] at ih
    by_cases hm : m.1 = key <;> simp [sortedMembers, valueAt?, hm, ih]

/-- Objects that are put in order to the same have the same members. -/
theorem valueAt?_of_sorted_eq
    {ms others : List (String × Json)}
    (hkeys : (ms.map Prod.fst).Nodup)
    (hothers : (others.map Prod.fst).Nodup)
    (h : (object ms).sorted = (object others).sorted)
    (key : String) :
    (valueAt? key ms).map sorted = (valueAt? key others).map sorted := by
  rw [sorted, sorted, object.injEq] at h
  rw [← valueAt?_sortedMembers, ← valueAt?_sortedMembers,
    ← valueAt?_perm (perm_sortedByKey _) (nodup_keys_sortedByKey hkeys),
    ← valueAt?_perm (perm_sortedByKey _) (nodup_keys_sortedByKey hothers), h]

/-! ## Values told apart by their texts -/

/-- That the texts of two values tell them apart, whatever follows the texts. -/
def ToldApart (layout : Layout) (v w : Json) : Prop :=
  ∀ (level : Nat) (rest rest' : List Char), NoNumericHead rest → NoNumericHead rest' →
    render layout level v ++ rest = render layout level w ++ rest' → v = w ∧ rest = rest'

section ToldApart

variable {layout : Layout} {v w : Json} {ms ns : List (String × Json)}

theorem ToldApart.refl
    (layout : Layout)
    (v : Json) :
    ToldApart layout v v :=
  fun _ _ _ _ _ h => ⟨rfl, List.append_cancel_left h⟩

/-- Values that read back are told apart. -/
theorem toldApart_of_isReadable
    (hlayout : layout.IsRegular)
    (hv : v.IsReadable)
    (hw : w.IsReadable) :
    ToldApart layout v w := by
  intro level rest rest' hrest hrest' h
  let fuel := (render layout level v).length + (render layout level w).length
  have hread := readValue_render hlayout v level fuel rest hv hrest (Nat.le_add_right _ _)
  have hread' := readValue_render hlayout w level fuel rest' hw hrest' (Nat.le_add_left _ _)
  rw [h, hread', Except.ok.injEq, Prod.mk.injEq] at hread
  exact ⟨hread.1.symm, hread.2.symm⟩

/-- That members have one key, and values that are told apart. -/
def MemberToldApart (layout : Layout) (m n : String × Json) : Prop :=
  m.1 = n.1 ∧ ToldApart layout m.2 n.2

theorem itemsText_renderMembers_inj
    (hlayout : layout.IsRegular)
    (level : Nat)
    (h : List.Forall₂ (MemberToldApart layout) ms ns)
    {rest rest' : List Char}
    (htext : itemsText layout level '\x7d' (renderMembers layout (level + 1) ms) ++ rest =
      itemsText layout level '\x7d' (renderMembers layout (level + 1) ns) ++ rest') :
    ms = ns ∧ rest = rest' := by
  induction h with
  | nil => exact ⟨rfl, List.append_cancel_left htext⟩
  | @cons m n ms ns hmember hmembers ih =>
    obtain ⟨key, v⟩ := m
    obtain ⟨key', w⟩ := n
    obtain ⟨rfl, hvalue⟩ : key = key' ∧ ToldApart layout v w := hmember
    have hstart (u : Json) (items : List (List Char)) (more : List Char) :
        itemsText layout level '\x7d' (memberText layout (level + 1) key u :: items) ++ more =
          (quote key ++ layout.keySeparator.toList) ++
            (render layout (level + 1) u ++ (restText layout level '\x7d' items ++ more)) := by
      simp [itemsText, memberText]
    have hnext (item : List Char) (items : List (List Char)) (more : List Char) :
        restText layout level '\x7d' (item :: items) ++ more =
          (layout.itemSeparator.toList ++ layout.newline (level + 1)) ++
            (itemsText layout level '\x7d' (item :: items) ++ more) := by
      simp [itemsText, restText]
    have hvalues := List.append_cancel_left
      ((hstart v (renderMembers layout (level + 1) ms) rest).symm.trans
        (htext.trans (hstart w (renderMembers layout (level + 1) ns) rest')))
    obtain ⟨rfl, hrest⟩ := hvalue (level + 1) _ _ (noNumericHead_restText hlayout rfl _ rest)
      (noNumericHead_restText hlayout rfl _ rest') hvalues
    -- What follows the first member is the end of the object, or a separator and the other members.
    cases hmembers with
    | nil => exact ⟨rfl, List.append_cancel_left hrest⟩
    | cons hsecond hothers =>
      simp only [renderMembers] at hrest ih
      rw [hnext, hnext] at hrest
      obtain ⟨hms, hmore⟩ := ih (List.append_cancel_left hrest)
      exact ⟨congrArg _ hms, hmore⟩

/-- Objects with the same keys are told apart if their values are. -/
theorem toldApart_object
    (hlayout : layout.IsRegular)
    (h : List.Forall₂ (MemberToldApart layout) ms ns) :
    ToldApart layout (.object ms) (.object ns) := by
  intro level rest rest' _ _ htext
  cases hms : ms with
  | nil =>
    subst hms
    cases h
    exact ⟨rfl, List.append_cancel_left htext⟩
  | cons m tail =>
    have hne : ms ≠ [] := hms ▸ List.cons_ne_nil m tail
    have hne' : ns ≠ [] := by
      rintro rfl
      exact hne (List.forall₂_nil_right_iff.mp h)
    have hrender {ps : List (String × Json)} (hps : ps ≠ []) (more : List Char) :
        render layout level (.object ps) ++ more = ('\x7b' :: layout.newline (level + 1)) ++
          (itemsText layout level '\x7d' (renderMembers layout (level + 1) ps) ++ more) := by
      obtain ⟨p, ps, rfl⟩ := List.exists_cons_of_ne_nil hps
      rw [render, joined_eq (by simp [renderMembers])]
      simp
    rw [hrender hne, hrender hne'] at htext
    obtain ⟨heq, hrest⟩ := itemsText_renderMembers_inj hlayout level h (List.append_cancel_left htext)
    exact ⟨by rw [← hms, heq], hrest⟩

/-- Members with the same keys come into one order. -/
theorem forall₂_sortedByKey
    {α : Type} {R : String × α → String × α → Prop} {ps qs : List (String × α)}
    (hkey : ∀ p q, R p q → p.1 = q.1)
    (h : List.Forall₂ R ps qs) :
    List.Forall₂ R (sortedByKey ps) (sortedByKey qs) := by
  obtain ⟨hlength, hpairs⟩ := List.forall₂_iff_zip.mp h
  let pairs := (ps.zip qs).mergeSort fun a b => decide (a.1.1 ≤ b.1.1)
  have hfirst : sortedByKey ps = pairs.map Prod.fst := calc
    sortedByKey ps = sortedByKey ((ps.zip qs).map Prod.fst) := by
      rw [List.map_fst_zip (Nat.le_of_eq hlength)]
    _ = pairs.map Prod.fst := (List.map_mergeSort (f := Prod.fst) fun _ _ _ _ => rfl).symm
  have hsecond : sortedByKey qs = pairs.map Prod.snd := calc
    sortedByKey qs = sortedByKey ((ps.zip qs).map Prod.snd) := by
      rw [List.map_snd_zip (Nat.le_of_eq hlength.symm)]
    _ = pairs.map Prod.snd := (List.map_mergeSort (f := Prod.snd) fun a ha b hb => by
      rw [hkey _ _ (hpairs ha), hkey _ _ (hpairs hb)]).symm
  rw [hfirst, hsecond, List.forall₂_map_left_iff, List.forall₂_map_right_iff, List.forall₂_same]
  intro pair hpair
  exact hpairs ((List.mergeSort_perm _ _).mem_iff.mp hpair)

/-- Objects with the same keys are told apart in order if their values are. -/
theorem toldApart_sorted_object
    (hlayout : layout.IsRegular)
    (h : List.Forall₂ (fun m n => m.1 = n.1 ∧ ToldApart layout m.2.sorted n.2.sorted) ms ns) :
    ToldApart layout (object ms).sorted (object ns).sorted := by
  have hsorted : List.Forall₂ (MemberToldApart layout) (sortedMembers ms) (sortedMembers ns) := by
    induction h with
    | nil => exact .nil
    | cons hmember _ ih => exact .cons hmember ih
  rw [sorted, sorted]
  exact toldApart_object hlayout (forall₂_sortedByKey (fun _ _ hmember => hmember.1) hsorted)

/-- Values that are told apart have different texts. -/
theorem ToldApart.writeAsIs_inj
    (h : ToldApart layout v w)
    (htext : v.writeAsIs layout = w.writeAsIs layout) :
    v = w := by
  have hrender : render layout 0 v ++ [] = render layout 0 w ++ [] := by
    rw [List.append_nil, List.append_nil]
    exact String.ofList_injective htext
  exact (h 0 [] [] (fun _ hmem => nomatch hmem) (fun _ hmem => nomatch hmem) hrender).1

end ToldApart

end Json

namespace Value

open Json

/-- The entry of a key is the value of the member with the key. -/
theorem lookup?_ofJsonMembers
    (key : String)
    (ms : List (String × Json)) :
    lookup? key (ofJsonMembers ms) = (valueAt? key ms).map ofJson := by
  induction ms with
  | nil => rfl
  | cons m ms ih =>
    simp only [valueAt?] at ih
    by_cases hm : m.1 = key <;> simp [ofJsonMembers, lookup?, valueAt?, hm, ih]

/-- The entries of an object with its members in order. -/
def sortedEntries (ms : List (String × Json)) : List (Value × Value) :=
  ofJsonMembers (sortedByKey (sortedMembers ms))

theorem lookup?_sortedEntries
    {ms : List (String × Json)}
    (hkeys : (ms.map Prod.fst).Nodup)
    (key : String) :
    lookup? key (sortedEntries ms) = (valueAt? key ms).map fun v => ofJson v.sorted := by
  rw [sortedEntries, lookup?_ofJsonMembers, valueAt?_perm (perm_sortedByKey _)
    (nodup_keys_sortedByKey hkeys), valueAt?_sortedMembers, Option.map_map]
  rfl

/-- The keys of the entries are the keys of the members, as texts. -/
theorem mem_sortedEntries
    {ms : List (String × Json)} {e : Value × Value}
    (h : e ∈ sortedEntries ms) :
    ∃ key ∈ ms.map Prod.fst, e.1 = .text key := by
  have hentry : ∀ {ms : List (String × Json)}, e ∈ ofJsonMembers ms →
      ∃ key ∈ ms.map Prod.fst, e.1 = .text key := by
    intro ms
    induction ms with
    | nil => intro h; cases h
    | cons m ms ih =>
      intro h
      rcases List.mem_cons.mp h with rfl | hmem
      · exact ⟨m.1, List.mem_cons_self, rfl⟩
      · obtain ⟨key, hkey, heq⟩ := ih hmem
        exact ⟨key, List.mem_cons_of_mem m.1 hkey, heq⟩
  obtain ⟨key, hkey, heq⟩ := hentry h
  rw [((perm_sortedByKey _).map Prod.fst).mem_iff, keys_sortedMembers] at hkey
  exact ⟨key, hkey, heq⟩

end Value
end RollupAudit
