/-!
# Code points

A text is a row of code points. Beside characters it can hold halves of surrogate pairs, which are code
points but no characters. So that a string can stand for any text, such a half is spelled with two
characters, a mark and a second one for the half, and the mark is spelled so as well where it stands for
itself. The strings of texts are in the order of the texts.

**Results.**
* `codePoints_flatMap_spell`: the code points of a text are those that were spelled.
* `codePoints_of_notMem`: a string without the mark spells its own characters.
-/

namespace RollupAudit
namespace Text

/-- Whether a code point lies in one of the inclusive ranges. -/
def inRanges (table : List (Nat × Nat)) (n : Nat) : Bool :=
  table.any fun r => r.1 ≤ n && n ≤ r.2

theorem inRanges_iff {table : List (Nat × Nat)} {n : Nat} :
    inRanges table n = true ↔ ∃ r ∈ table, r.1 ≤ n ∧ n ≤ r.2 := by
  simp [inRanges]

/-- The number of code points. -/
def codePointCount : Nat := 0x110000

/-- Whether a code point is the first half of a surrogate pair. -/
def isHighHalf (n : Nat) : Bool := 0xd800 ≤ n && n < 0xdc00

/-- Whether a code point is the second half of a surrogate pair. -/
def isLowHalf (n : Nat) : Bool := 0xdc00 ≤ n && n < 0xe000

/-- Whether a code point is half of a surrogate pair. -/
def isHalf (n : Nat) : Bool := isHighHalf n || isLowHalf n

/-- The mark before a character that spells a half of a surrogate pair, or the mark itself. -/
def halfMark : Char := '\ud7ff'

/-- The characters that spell a code point. -/
def spell (n : Nat) : List Char :=
  if n = halfMark.toNat ∨ isHalf n = true then [halfMark, Char.ofNat (n + 0x801)] else [Char.ofNat n]

/-- The characters that spell a text of characters. -/
def spelled (s : String) : String := String.ofList (s.toList.flatMap fun c => spell c.toNat)

/-- The code points that characters spell. -/
def codePoints : List Char → List Nat
  | [] => []
  | [c] => [c.toNat]
  | c :: d :: cs =>
    if c = halfMark ∧ 0xe000 ≤ d.toNat ∧ d.toNat ≤ 0xe800 then (d.toNat - 0x801) :: codePoints cs
    else c.toNat :: codePoints (d :: cs)

/-- Whether a string spells a text in the one way in which it is spelled. -/
def isSpelled (s : String) : Bool := (codePoints s.toList).flatMap spell == s.toList

/-- Whether two halves that make a surrogate pair stand side by side. -/
def holdsPair : List Nat → Bool
  | high :: low :: ns => (isHighHalf high && isLowHalf low) || holdsPair (low :: ns)
  | _ => false

/-- Whether a string spells a text in which no two halves make a surrogate pair. -/
def isWhole (s : String) : Bool := isSpelled s && !holdsPair (codePoints s.toList)

variable {n : Nat} {c : Char} {cs : List Char} {s : String}

theorem isHalf_iff : isHalf n = true ↔ 0xd800 ≤ n ∧ n < 0xe000 := by
  simp [isHalf, isHighHalf, isLowHalf]
  omega

theorem toNat_lt_codePointCount (c : Char) : c.toNat < codePointCount := by
  have hvalid : c.toNat < 0xd800 ∨ 0xdfff < c.toNat ∧ c.toNat < 0x110000 := c.valid
  unfold codePointCount
  omega

theorem isHalf_toNat (c : Char) : isHalf c.toNat = false := by
  have hvalid : c.toNat < 0xd800 ∨ 0xdfff < c.toNat ∧ c.toNat < 0x110000 := c.valid
  rw [Bool.eq_false_iff, Ne, isHalf_iff]
  omega

theorem toNat_ofNat_of_not_isHalf
    (hn : n < codePointCount)
    (h : isHalf n = false) :
    (Char.ofNat n).toNat = n := by
  rw [Bool.eq_false_iff, Ne, isHalf_iff] at h
  unfold codePointCount at hn
  have hvalid : n.isValidChar := by
    simp only [Nat.isValidChar]
    omega
  rw [Char.ofNat, dif_pos hvalid]
  rfl

theorem codePoints_cons_of_ne
    (h : c ≠ halfMark)
    (cs : List Char) :
    codePoints (c :: cs) = c.toNat :: codePoints cs := by
  cases cs with
  | nil => rfl
  | cons d cs => rw [codePoints, if_neg fun hmark => h hmark.1]

/-- A character below the mark spells itself wherever it stands. -/
theorem codePoints_append_cons
    (hc : c.toNat < halfMark.toNat)
    (cs ds : List Char) :
    codePoints (cs ++ c :: ds) = codePoints cs ++ c.toNat :: codePoints ds := by
  have hbelow : c.toNat < 0xd7ff := hc
  have hne : c ≠ halfMark := fun h => absurd hc (h ▸ Nat.lt_irrefl _)
  induction cs using codePoints.induct with
  | case1 => exact codePoints_cons_of_ne hne ds
  | case2 d =>
    have hmark : ¬ (d = halfMark ∧ 0xe000 ≤ c.toNat ∧ c.toNat ≤ 0xe800) := by omega
    have hfirst : codePoints (d :: c :: ds) = d.toNat :: codePoints (c :: ds) := by
      rw [codePoints, if_neg hmark]
    rw [List.singleton_append, hfirst, codePoints_cons_of_ne hne]
    rfl
  | case3 a b cs hmark ih =>
    rw [List.cons_append, List.cons_append, codePoints, if_pos hmark, ih, codePoints, if_pos hmark,
      List.cons_append]
  | case4 a b cs hmark ih =>
    rw [List.cons_append] at ih
    rw [List.cons_append, List.cons_append, codePoints, if_neg hmark, ih, codePoints, if_neg hmark,
      List.cons_append]

/-- A code point is read off the characters that spell it. -/
theorem codePoints_spell_append
    (hn : n < codePointCount)
    (cs : List Char) :
    codePoints (spell n ++ cs) = n :: codePoints cs := by
  unfold spell
  split
  · rename_i hmark
    have hrange : 0xd7ff ≤ n ∧ n < 0xe000 := by
      rcases hmark with rfl | hhalf
      · decide
      · rw [isHalf_iff] at hhalf
        omega
    have hsecond : (Char.ofNat (n + 0x801)).toNat = n + 0x801 := by
      refine toNat_ofNat_of_not_isHalf (by unfold codePointCount; omega) ?_
      rw [Bool.eq_false_iff, Ne, isHalf_iff]
      omega
    rw [List.cons_append, List.singleton_append, codePoints, if_pos ⟨rfl, by omega⟩, hsecond,
      Nat.add_sub_cancel]
  · rename_i hmark
    rw [not_or, Bool.not_eq_true] at hmark
    have hchar := toNat_ofNat_of_not_isHalf hn hmark.2
    have hne : Char.ofNat n ≠ halfMark := by
      intro heq
      rw [heq] at hchar
      exact hmark.1 hchar.symm
    rw [List.singleton_append, codePoints_cons_of_ne hne, hchar]

/-- The code points of a text are those that were spelled. -/
theorem codePoints_flatMap_spell
    {ns : List Nat}
    (h : ∀ n ∈ ns, n < codePointCount) :
    codePoints (ns.flatMap spell) = ns := by
  induction ns with
  | nil => rfl
  | cons n ns ih =>
    obtain ⟨hn, hns⟩ := List.forall_mem_cons.mp h
    rw [List.flatMap_cons, codePoints_spell_append hn, ih hns]

/-- A string without the mark spells its own characters. -/
theorem codePoints_of_notMem
    (h : halfMark ∉ cs) :
    codePoints cs = cs.map Char.toNat := by
  induction cs with
  | nil => rfl
  | cons c cs ih =>
    rw [codePoints_cons_of_ne (List.ne_of_not_mem_cons h).symm, ih (List.not_mem_of_not_mem_cons h),
      List.map_cons]

theorem any_isHalf_of_notMem
    (h : halfMark ∉ s.toList) :
    (codePoints s.toList).any isHalf = false := by
  rw [codePoints_of_notMem h, List.any_map, List.any_eq_false]
  intro c _
  simp [isHalf_toNat]

theorem lt_of_mem_codePoints
    (h : n ∈ codePoints cs) :
    n < codePointCount := by
  induction cs using codePoints.induct with
  | case1 => cases h
  | case2 c =>
    rw [List.mem_singleton.mp h]
    exact toNat_lt_codePointCount c
  | case3 c d cs hmark ih =>
    rw [codePoints, if_pos hmark] at h
    rcases List.mem_cons.mp h with hn | hmem
    · exact hn ▸ Nat.lt_of_le_of_lt (Nat.sub_le _ _) (toNat_lt_codePointCount d)
    · exact ih hmem
  | case4 c d cs hmark ih =>
    rw [codePoints, if_neg hmark] at h
    rcases List.mem_cons.mp h with rfl | hmem
    · exact toNat_lt_codePointCount c
    · exact ih hmem

theorem spell_toNat
    (h : c ≠ halfMark) :
    spell c.toNat = [c] := by
  have hne : ¬ (c.toNat = halfMark.toNat ∨ isHalf c.toNat = true) := by
    rintro (heq | hhalf)
    · exact h (Char.toNat_inj.mp heq)
    · rw [isHalf_toNat] at hhalf
      cases hhalf
  rw [spell, if_neg hne, Char.ofNat_toNat]

/-- A string without the mark spells a text, and there are no halves in it. -/
theorem isWhole_of_notMem
    (h : halfMark ∉ s.toList) :
    isWhole s = true := by
  have hspell : ∀ cs : List Char, halfMark ∉ cs → (cs.map Char.toNat).flatMap spell = cs := by
    intro cs hcs
    induction cs with
    | nil => rfl
    | cons c cs ih =>
      rw [List.map_cons, List.flatMap_cons, spell_toNat (List.ne_of_not_mem_cons hcs).symm,
        ih (List.not_mem_of_not_mem_cons hcs), List.singleton_append]
  have hpair : ∀ cs : List Char, holdsPair (cs.map Char.toNat) = false := by
    intro cs
    induction cs with
    | nil => rfl
    | cons c cs ih =>
      cases cs with
      | nil => rfl
      | cons d cs =>
        have hc := isHalf_toNat c
        rw [isHalf, Bool.or_eq_false_iff] at hc
        rw [List.map_cons, List.map_cons, holdsPair, hc.1, Bool.false_and, Bool.false_or]
        exact ih
  rw [isWhole, isSpelled, codePoints_of_notMem h, hspell _ h, hpair]
  simp

theorem isWhole_of_lt
    (h : ∀ c ∈ s.toList, c.toNat < 0x80) :
    isWhole s = true :=
  isWhole_of_notMem fun hmark => absurd (h halfMark hmark) (by decide)

end Text
end RollupAudit
