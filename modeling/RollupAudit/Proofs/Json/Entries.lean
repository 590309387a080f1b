import RollupAudit.Json.Basic

/-!
# Lists of keys and values

The value of a key does not depend on the order of entries with distinct keys. Setting a key sets its
value and no other, and adds no key but a new one at the end.

**Results.**
* `valueAt?_setEntry_self`, `valueAt?_setEntry_of_ne`: the values after a key is set.
* `ofEntries_eq_self`: entries with distinct keys are kept as they are.
* `valueAt?_perm`: the order of entries with distinct keys does not matter.
-/

namespace RollupAudit

variable {κ ν : Type} [BEq κ] [LawfulBEq κ]

/-- A key that is set has its new value. -/
theorem valueAt?_setEntry_self
    (key : κ)
    (value : ν)
    (entries : List (κ × ν)) :
    valueAt? key (setEntry key value entries) = some value := by
  induction entries with
  | nil => simp [setEntry, valueAt?]
  | cons e entries ih =>
    simp only [valueAt?] at ih
    by_cases he : e.1 = key <;> simp [setEntry, valueAt?, he, ih]

/-- Every other key keeps its value. -/
theorem valueAt?_setEntry_of_ne
    {key other : κ}
    (h : other ≠ key)
    (value : ν)
    (entries : List (κ × ν)) :
    valueAt? other (setEntry key value entries) = valueAt? other entries := by
  have hkey : (key == other) = false := beq_eq_false_iff_ne.mpr h.symm
  induction entries with
  | nil => simp [setEntry, valueAt?, hkey]
  | cons e entries ih =>
    simp only [valueAt?] at ih
    by_cases he : e.1 = key
    · simp [setEntry, valueAt?, he, hkey]
    · by_cases hother : e.1 = other <;> simp [setEntry, valueAt?, he, hother, h, ih]

/-- No key is lost when a key is set. -/
theorem mem_keys_setEntry
    (key : κ)
    {other : κ} {entries : List (κ × ν)}
    (h : other ∈ entries.map Prod.fst)
    (value : ν) :
    other ∈ (setEntry key value entries).map Prod.fst := by
  induction entries with
  | nil => cases h
  | cons e entries ih =>
    by_cases he : e.1 = key
    · simpa [setEntry, he] using h
    · rcases List.mem_cons.mp h with rfl | hmem
      · simp [setEntry, he]
      · simp [setEntry, he, ih hmem]

/-- No key is added but the one that is set. -/
theorem eq_or_mem_keys_of_setEntry
    {key other : κ} {value : ν} {entries : List (κ × ν)}
    (h : other ∈ (setEntry key value entries).map Prod.fst) :
    other = key ∨ other ∈ entries.map Prod.fst := by
  induction entries with
  | nil => exact .inl (List.mem_singleton.mp h)
  | cons e entries ih =>
    by_cases he : e.1 = key
    · exact .inr (by simpa [setEntry, he] using h)
    · rw [setEntry, if_neg (by simpa using he), List.map_cons, List.mem_cons] at h
      rw [List.map_cons, List.mem_cons]
      exact h.elim (fun heq => .inr (.inl heq)) fun hmem => (ih hmem).imp_right .inr

/-- A new key is set at the end. -/
theorem setEntry_of_not_mem
    {key : κ} {value : ν} :
    ∀ {entries : List (κ × ν)}, key ∉ entries.map Prod.fst →
      setEntry key value entries = entries ++ [(key, value)]
  | [], _ => rfl
  | (k, v) :: entries, h => by
    have hne : (k == key) = false := by
      rw [beq_eq_false_iff_ne]
      rintro rfl
      exact h List.mem_cons_self
    have ih : setEntry key value entries = entries ++ [(key, value)] :=
      setEntry_of_not_mem fun hmem => h (List.mem_cons_of_mem k hmem)
    simp [setEntry, hne, ih]

/-- Entries with distinct keys are kept as they are. -/
theorem ofEntries_eq_self
    {entries : List (κ × ν)}
    (h : (entries.map Prod.fst).Nodup) :
    ofEntries entries = entries := by
  have hfold : ∀ (entries acc : List (κ × ν)), ((acc ++ entries).map Prod.fst).Nodup →
      entries.foldl (fun acc e => setEntry e.1 e.2 acc) acc = acc ++ entries := by
    intro entries
    induction entries with
    | nil => simp
    | cons e entries ih =>
      intro acc hnodup
      have hfresh : e.1 ∉ acc.map Prod.fst := by
        rw [List.map_append, List.map_cons, List.nodup_append] at hnodup
        intro hmem
        exact hnodup.2.2 e.1 hmem e.1 List.mem_cons_self rfl
      have hmoved : ((acc ++ [e]) ++ entries).map Prod.fst = (acc ++ e :: entries).map Prod.fst := by
        simp
      rw [List.foldl_cons, setEntry_of_not_mem hfresh, ih (acc ++ [e]) (by rw [hmoved]; exact hnodup),
        List.append_assoc]
      rfl
  exact hfold entries [] h

/-- A key of distinct keys has the value that it stands with. -/
theorem valueAt?_of_mem
    {e : κ × ν} {entries : List (κ × ν)}
    (hkeys : (entries.map Prod.fst).Nodup)
    (he : e ∈ entries) :
    valueAt? e.1 entries = some e.2 := by
  induction entries with
  | nil => cases he
  | cons first rest ih =>
    obtain ⟨hfirst, hrest⟩ := List.nodup_cons.mp hkeys
    rcases List.mem_cons.mp he with rfl | he
    · simp [valueAt?]
    · have hne : first.1 ≠ e.1 := fun h => hfirst (h ▸ List.mem_map_of_mem he)
      simpa [valueAt?, hne] using ih hrest he

theorem valueAt?_eq_none_of_not_mem
    {key : κ} {entries : List (κ × ν)}
    (h : key ∉ entries.map Prod.fst) :
    valueAt? key entries = none := by
  have hfind : entries.find? (fun e => e.1 == key) = none := by
    rw [List.find?_eq_none]
    intro e he heq
    exact h (beq_iff_eq.mp heq ▸ List.mem_map_of_mem he)
  rw [valueAt?, hfind, Option.map_none]

/-- The value of a key does not depend on the order of entries with distinct keys. -/
theorem valueAt?_perm
    {entries others : List (κ × ν)}
    (hperm : entries.Perm others)
    (hkeys : (entries.map Prod.fst).Nodup)
    (key : κ) :
    valueAt? key entries = valueAt? key others := by
  unfold valueAt?
  congr 1
  induction hperm with
  | nil => rfl
  | cons e hperm ih =>
    have hrest := ih (List.nodup_cons.mp hkeys).2
    simp only [List.find?_cons, hrest]
  | swap e f entries =>
    have hne : f.1 ≠ e.1 := by
      simp only [List.map_cons, List.nodup_cons, List.mem_cons, not_or] at hkeys
      exact hkeys.1.1
    simp only [List.find?_cons]
    by_cases hf : f.1 = key
    · have he : (e.1 == key) = false := beq_eq_false_iff_ne.mpr fun h => hne (hf.trans h.symm)
      simp [he]
    · have hf' : (f.1 == key) = false := beq_eq_false_iff_ne.mpr hf
      simp [hf']
  | trans hfirst _ ih ih' =>
    exact (ih hkeys).trans (ih' ((hfirst.map Prod.fst).nodup_iff.mp hkeys))

end RollupAudit
