import RollupAudit.Facts.Override
import RollupAudit.Proofs.Validation.Results

/-!
# Values at paths

Setting the value at a path changes the entries of a mapping at the first part of the path and
nowhere else. On the way down, what is absent or null is opened as a mapping without entries, and
what is no mapping is not opened at all.

**Results.**
* `Value.lookup?_setText`: what a key has after the value of a key is set.
* `Value.setPath_cons_eq_ok_iff`: setting a value at a path, one part after another.
-/

namespace RollupAudit
namespace Value

/-- The entries that a part of a path is opened as: none if it is absent or null. -/
def opened? : Option Value → Option Entries
  | none => some []
  | some .null => some []
  | some (.mapping es) => some es
  | some _ => none

/-- That a value set at a path below a part makes the part another value. -/
inductive Assigns (v : Value) : List String → Option Value → Value → Prop
  | here {x : Option Value} : Assigns v [] x v
  | inside {part : String} {path : List String} {x : Option Value} {es : Entries} {w : Value}
      (hopened : opened? x = some es)
      (hrest : Assigns v path (lookup? part es) w) :
      Assigns v (part :: path) x (.mapping (setText part w es))

/-- The value at a path through mappings. -/
def at? : List String → Option Value → Option Value
  | [], x => x
  | part :: path, some (.mapping es) => at? path (lookup? part es)
  | _ :: _, _ => none

variable {es : Entries} {w : Value} {name part : String}

theorem lookup?_setText
    (name part : String)
    (w : Value)
    (es : Entries) :
    lookup? name (setText part w es) = if name = part then some w else lookup? name es := by
  induction es with
  | nil =>
    simp only [setText, lookup?, eq_comm]
  | cons e es ih =>
    obtain ⟨key, v⟩ := e
    cases key with
    | text k =>
      simp only [setText]
      split
      · rename_i hk
        subst hk
        simp only [lookup?]
        split <;> simp_all [eq_comm]
      · simp only [lookup?, ih]
        split <;> simp_all
    | _ => simpa [setText, lookup?] using ih

theorem lookup?_setText_self : lookup? part (setText part w es) = some w := by
  rw [lookup?_setText, if_pos rfl]

theorem lookup?_setText_of_ne
    (h : name ≠ part) :
    lookup? name (setText part w es) = lookup? name es := by
  rw [lookup?_setText, if_neg h]

/-- A key that is there keeps its place. -/
theorem map_fst_setText_of_some
    {v : Value}
    (h : lookup? part es = some v) :
    (setText part w es).map Prod.fst = es.map Prod.fst := by
  induction es with
  | nil => cases h
  | cons e es ih =>
    obtain ⟨key, v⟩ := e
    cases key with
    | text k =>
      simp only [lookup?] at h
      simp only [setText]
      split
      · simp_all
      · rename_i hk
        rw [if_neg hk] at h
        simp [ih h]
    | _ =>
      simp only [lookup?] at h
      simp [setText, ih h]

/-- A key that is not there is put at the end. -/
theorem map_fst_setText_of_none
    (h : lookup? part es = none) :
    (setText part w es).map Prod.fst = es.map Prod.fst ++ [.text part] := by
  induction es with
  | nil => rfl
  | cons e es ih =>
    obtain ⟨key, v⟩ := e
    cases key with
    | text k =>
      simp only [lookup?] at h
      simp only [setText]
      split
      · simp_all
      · rename_i hk
        rw [if_neg hk] at h
        simp [ih h]
    | _ =>
      simp only [lookup?] at h
      simp [setText, ih h]

/-- A text key has a value exactly if it is there. -/
theorem isSome_lookup?_iff :
    (lookup? part es).isSome = true ↔ .text part ∈ es.map Prod.fst := by
  induction es with
  | nil => simp [lookup?]
  | cons e es ih =>
    obtain ⟨key, v⟩ := e
    cases key with
    | text k =>
      by_cases hk : k = part
      · simp [lookup?, hk]
      · have hne : part ≠ k := fun h => hk h.symm
        simpa [lookup?, hk, hne] using ih
    | _ => simpa [lookup?] using ih

theorem mem_of_lookup?_eq_some
    (h : lookup? name es = some w) :
    (.text name, w) ∈ es := by
  induction es with
  | nil => cases h
  | cons e es ih =>
    obtain ⟨key, v⟩ := e
    cases key with
    | text k =>
      by_cases hk : k = name
      · have hv : v = w := by simpa [lookup?, hk] using h
        rw [hk, hv]
        exact List.mem_cons_self
      · exact List.mem_cons_of_mem _ (ih (by simpa [lookup?, hk] using h))
    | _ => exact List.mem_cons_of_mem _ (ih (by simpa [lookup?] using h))

theorem setText_lookup?
    (h : lookup? part es = some w) :
    setText part w es = es := by
  induction es with
  | nil => cases h
  | cons e es ih =>
    obtain ⟨key, v⟩ := e
    cases key with
    | text k =>
      by_cases hk : k = part
      · simp_all [lookup?, setText]
      · have hrest : lookup? part es = some w := by simpa [lookup?, hk] using h
        simp [setText, hk, ih hrest]
    | _ =>
      have hrest : lookup? part es = some w := by simpa [lookup?] using h
      simp [setText, ih hrest]

theorem mem_map_fst_setText
    {key : Value} :
    key ∈ (setText part w es).map Prod.fst ↔ key = .text part ∨ key ∈ es.map Prod.fst := by
  cases h : lookup? part es with
  | none =>
    rw [map_fst_setText_of_none h, List.mem_append, List.mem_singleton, or_comm]
  | some v =>
    have hmem : .text part ∈ es.map Prod.fst := isSome_lookup?_iff.mp (by simp [h])
    rw [map_fst_setText_of_some h]
    constructor
    · exact .inr
    · rintro (rfl | hkey)
      · exact hmem
      · exact hkey

/-- What has a value below it is there. -/
theorem ne_none_of_at?
    {v : Value} {path : List String} {x : Option Value}
    (h : at? path x = some v) :
    x ≠ none := by
  rintro rfl
  cases path <;> cases h

/-- A path ends at what is no mapping. -/
theorem at?_of_ne_mapping
    {v : Value} {path : List String}
    (h : ∀ es, v ≠ .mapping es)
    (hw : at? path (some v) = some w) :
    path = [] ∧ w = v := by
  cases path with
  | nil => exact ⟨rfl, (Option.some.inj hw).symm⟩
  | cons name path =>
    cases v with
    | mapping es => exact absurd rfl (h es)
    | _ => cases hw

/-- A value set at a path makes a part one other value. -/
theorem Assigns.functional
    {v w' : Value} {path : List String} {x : Option Value}
    (h : Assigns v path x w)
    (h' : Assigns v path x w') :
    w = w' := by
  induction h generalizing w' with
  | here =>
    cases h'
    rfl
  | inside hopened _ ih =>
    cases h' with
    | inside hopened' hrest =>
      obtain rfl := Option.some.inj (hopened.symm.trans hopened')
      rw [ih hrest]

/-- A path of several parts is followed through the entries that its first part is opened as. -/
theorem setPath_cons_cons
    (v : Value)
    (part next : String)
    (rest : List String)
    (es : Entries) :
    setPath v (part :: next :: rest) es =
      match opened? (lookup? part es) with
      | some inner =>
        (setPath v (next :: rest) inner).map fun inner => setText part (.mapping inner) es
      | none => .error part := by
  rw [setPath]
  · cases lookup? part es with
    | none => rfl
    | some x => cases x <;> rfl
  · exact List.cons_ne_nil next rest

/-- A value is set at a path by making the first part another value. -/
theorem setPath_cons_eq_ok_iff
    {v : Value} {path : List String} {es' : Entries} :
    setPath v (part :: path) es = .ok es' ↔
      ∃ w, Assigns v path (lookup? part es) w ∧ es' = setText part w es := by
  induction path generalizing part es es' with
  | nil =>
    constructor
    · rintro ⟨⟩
      exact ⟨v, .here, rfl⟩
    · rintro ⟨_, ⟨⟩, rfl⟩
      rfl
  | cons next rest ih =>
    rw [setPath_cons_cons]
    constructor
    · intro h
      cases hopened : opened? (lookup? part es) with
      | none =>
        rw [hopened] at h
        cases h
      | some inner =>
        rw [hopened] at h
        obtain ⟨inner', hset, rfl⟩ := map_eq_ok_iff.mp h
        obtain ⟨w, hw, rfl⟩ := ih.mp hset
        exact ⟨_, .inside hopened hw, rfl⟩
    · rintro ⟨_, hassigns, rfl⟩
      cases hassigns with
      | inside hopened hw =>
        rw [hopened]
        exact map_eq_ok_iff.mpr ⟨_, ih.mpr ⟨_, hw, rfl⟩, rfl⟩

end Value
end RollupAudit
