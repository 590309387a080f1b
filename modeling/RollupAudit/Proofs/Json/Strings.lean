import RollupAudit.Json.Reader
import RollupAudit.Json.Writer
import RollupAudit.Proofs.Text.Digits

/-!
# Texts within quotes

A text is written in ASCII: a code point beyond the ASCII range is escaped as its UTF-16 units, two of
them from U+10000 on. Reading takes the units up to the closing quote and joins the pairs again. So a text
reads back unless two halves in it make a pair, for these are joined as well.

**Results.**
* `readUnits?_escapedPoint`: the units of a code point are read from its escape.
* `joinPairs_units`: the units of code points are joined to the code points.
* `readText?_quote`: a quoted text reads back, and what follows it is left.
-/

namespace RollupAudit
namespace Json

open Text

theorem hexValue?_digitChar
    {d : Nat}
    (h : d < 16) :
    hexValue? (Nat.digitChar d) = some d := by
  have hall : ∀ d < 16, hexValue? (Nat.digitChar d) = some d := by decide
  exact hall d h

/-- The four digits of a UTF-16 unit. -/
theorem paddedDigits_unit
    {n : Nat}
    (h : n < 0x10000) :
    paddedDigits 16 4 n =
      [Nat.digitChar (n / 16 / 16 / 16), Nat.digitChar (n / 16 / 16 % 16), Nat.digitChar (n / 16 % 16),
        Nat.digitChar (n % 16)] := by
  have hfirst : n / 16 / 16 / 16 < 16 := by omega
  rw [paddedDigits_succ (by decide) (by decide), paddedDigits_succ (by decide) (by decide),
    paddedDigits_succ (by decide) (by decide), paddedDigits_one hfirst]
  rfl

/-- The escape of a unit is read as the unit. -/
theorem readUnits?_unitEscape
    {n : Nat}
    (h : n < 0x10000)
    (rest : List Char) :
    readUnits? (unitEscape n ++ rest) = (readUnits? rest).map fun r => (n :: r.1, r.2) := by
  have hunit : unit? (Nat.digitChar (n / 16 / 16 / 16)) (Nat.digitChar (n / 16 / 16 % 16))
      (Nat.digitChar (n / 16 % 16)) (Nat.digitChar (n % 16)) = some n := by
    have hfirst : n / 16 / 16 / 16 < 16 := by omega
    have hmod (m : Nat) : m % 16 < 16 := Nat.mod_lt _ (by decide)
    simp only [unit?, hexValue?_digitChar hfirst, hexValue?_digitChar (hmod _), Option.pure_def,
      Option.bind_eq_bind, Option.bind_some, Option.some.injEq]
    omega
  rw [unitEscape, paddedDigits_unit h]
  simp [readUnits?, hunit]

/-- A character that is neither a quote, a backslash nor a control character is read as itself. -/
theorem readUnits?_plain
    {c : Char}
    (hquote : c ≠ '"')
    (hbackslash : c ≠ '\\')
    (hcontrol : ¬ c.toNat < 0x20)
    (rest : List Char) :
    readUnits? (c :: rest) = (readUnits? rest).map fun r => (c.toNat :: r.1, r.2) := by
  rw [readUnits?.eq_def]
  split
  · rename_i heq
    cases heq
  · rename_i heq
    exact absurd (List.cons.inj heq).1 hquote
  · rename_i heq
    exact absurd (List.cons.inj heq).1 hbackslash
  · rename_i heq
    exact absurd (List.cons.inj heq).1 hbackslash
  · rename_i heq
    obtain ⟨rfl, rfl⟩ := List.cons.inj heq
    rw [if_neg hcontrol]

/-- The UTF-16 units of a code point. -/
def units (n : Nat) : List Nat :=
  if n < 0x10000 then [n]
  else [0xd800 + (n - 0x10000) / 0x400, 0xdc00 + (n - 0x10000) % 0x400]

theorem units_of_lt
    {n : Nat}
    (h : n < 0x10000) :
    units n = [n] :=
  if_pos h

/-- The escape of a character is read as its units. -/
theorem readUnits?_escaped
    (c : Char)
    (rest : List Char) :
    readUnits? (escaped c ++ rest) = (readUnits? rest).map fun r => (units c.toNat ++ r.1, r.2) := by
  unfold escaped
  split
  · subst_vars
    rfl
  split
  · subst_vars
    rfl
  split
  · subst_vars
    rfl
  split
  · subst_vars
    rfl
  split
  · subst_vars
    rfl
  split
  · subst_vars
    rfl
  split
  · subst_vars
    rfl
  split
  · rename_i hquote hbackslash _ _ _ _ _ hrange
    rw [units_of_lt (by omega), List.singleton_append,
      readUnits?_plain hquote hbackslash (by omega)]
    rfl
  split
  · rename_i hlt
    rw [units_of_lt hlt, readUnits?_unitEscape hlt]
    rfl
  · rename_i hge
    have hrange := toNat_lt_codePointCount c
    unfold codePointCount at hrange
    simp only [List.append_assoc, units, if_neg hge]
    rw [readUnits?_unitEscape (by omega), readUnits?_unitEscape (by omega), Option.map_map]
    rfl

/-- The escape of a code point is read as its units. -/
theorem readUnits?_escapedPoint
    {n : Nat}
    (hn : n < codePointCount)
    (rest : List Char) :
    readUnits? (escapedPoint n ++ rest) = (readUnits? rest).map fun r => (units n ++ r.1, r.2) := by
  cases hhalf : isHalf n with
  | true =>
    have hlt : n < 0x10000 := by
      rw [isHalf_iff] at hhalf
      omega
    rw [escapedPoint, if_pos hhalf, units_of_lt hlt, readUnits?_unitEscape hlt]
    rfl
  | false =>
    rw [escapedPoint, if_neg (by simp [hhalf]), readUnits?_escaped,
      toNat_ofNat_of_not_isHalf hn hhalf]

/-- The escapes of code points are read as their units, up to the closing quote. -/
theorem readUnits?_text
    {ns : List Nat}
    (hns : ∀ n ∈ ns, n < codePointCount)
    (rest : List Char) :
    readUnits? (ns.flatMap escapedPoint ++ '"' :: rest) = some (ns.flatMap units, rest) := by
  induction ns with
  | nil => rfl
  | cons n ns ih =>
    obtain ⟨hn, hns⟩ := List.forall_mem_cons.mp hns
    rw [List.flatMap_cons, List.append_assoc, readUnits?_escapedPoint hn, ih hns]
    rfl

/-- A code point of the basic plane is spelled by itself, unless it makes a pair with the unit after
it. -/
theorem joinPairs_single
    {n : Nat} {rest : List Nat}
    (h : ∀ low ∈ rest.head?, pair? n low = none) :
    joinPairs (n :: rest) = spell n ++ joinPairs rest := by
  cases rest with
  | nil => simp [joinPairs]
  | cons low rest => rw [joinPairs, h low rfl]

/-- The two units of a character beyond the basic plane are joined to the character. -/
theorem joinPairs_pair
    {n : Nat}
    (hn : n < codePointCount)
    (hge : ¬ n < 0x10000)
    (rest : List Nat) :
    joinPairs (units n ++ rest) = spell n ++ joinPairs rest := by
  have hhigh : isHighHalf (0xd800 + (n - 0x10000) / 0x400) = true := by
    unfold codePointCount at hn
    simp only [isHighHalf, Bool.and_eq_true, decide_eq_true_eq]
    omega
  have hlow : isLowHalf (0xdc00 + (n - 0x10000) % 0x400) = true := by
    simp only [isLowHalf, Bool.and_eq_true, decide_eq_true_eq]
    omega
  have hpair : pair? (0xd800 + (n - 0x10000) / 0x400) (0xdc00 + (n - 0x10000) % 0x400) =
      some (Char.ofNat n) := by
    have hsum : 0x10000 + (0xd800 + (n - 0x10000) / 0x400 - 0xd800) * 0x400 +
        (0xdc00 + (n - 0x10000) % 0x400 - 0xdc00) = n := by omega
    rw [pair?, if_pos ⟨hhigh, hlow⟩, hsum]
  have hspell : spell n = [Char.ofNat n] := by
    have hnot : ¬ (n = halfMark.toNat ∨ isHalf n = true) := by
      rw [isHalf_iff]
      rintro (rfl | hhalf)
      · exact hge (by decide)
      · omega
    rw [spell, if_neg hnot]
  simp only [units, if_neg hge, List.cons_append, List.nil_append, joinPairs, hpair, hspell]

theorem head?_units_append
    (n : Nat)
    (ms : List Nat) :
    (units n ++ ms).head? = (units n).head? := by
  unfold units
  split <;> rfl

/-- The first unit of a code point is no second half, unless the code point is one. -/
theorem isLowHalf_head_units
    {n low : Nat}
    (hn : n < codePointCount)
    (hlow : isLowHalf low = true)
    (h : low ∈ (units n).head?) :
    low = n := by
  unfold units at h
  split at h
  · exact (Option.mem_some.mp h).symm
  · obtain rfl := Option.mem_some.mp h
    unfold codePointCount at hn
    simp only [isLowHalf, Bool.and_eq_true, decide_eq_true_eq] at hlow
    omega

/-- The units of code points are joined to the code points, if no two of these make a pair. -/
theorem joinPairs_units
    {ns : List Nat}
    (hns : ∀ n ∈ ns, n < codePointCount)
    (hpair : holdsPair ns = false) :
    joinPairs (ns.flatMap units) = ns.flatMap spell := by
  induction ns with
  | nil => rfl
  | cons n ns ih =>
    obtain ⟨hn, hns⟩ := List.forall_mem_cons.mp hns
    rw [List.flatMap_cons, List.flatMap_cons]
    by_cases hlt : n < 0x10000
    · rw [units_of_lt hlt, List.singleton_append]
      cases ns with
      | nil => simp [joinPairs]
      | cons m ns =>
        rw [holdsPair, Bool.or_eq_false_iff] at hpair
        rw [joinPairs_single ?_, ih hns hpair.2]
        intro low hlow
        refine if_neg ?_
        rintro ⟨hhigh, hlowHalf⟩
        rw [List.flatMap_cons, head?_units_append] at hlow
        obtain rfl := isLowHalf_head_units (hns m List.mem_cons_self) hlowHalf hlow
        rw [hhigh, hlowHalf] at hpair
        cases hpair.1
    · have hrest : holdsPair ns = false := by
        cases ns with
        | nil => rfl
        | cons m ns =>
          rw [holdsPair, Bool.or_eq_false_iff] at hpair
          exact hpair.2
      rw [joinPairs_pair hn hlt, ih hns hrest]

/-- A quoted text reads back after its opening quote, and what follows it is left, if no two halves in the
text make a pair. -/
theorem readText?_quote
    {s : String}
    (h : isWhole s = true)
    (rest : List Char) :
    readText? ((codePoints s.toList).flatMap escapedPoint ++ '"' :: rest) = some (s.toList, rest) := by
  rw [isWhole, isSpelled, Bool.and_eq_true, beq_iff_eq, Bool.not_eq_true'] at h
  have hpoints : ∀ n ∈ codePoints s.toList, n < codePointCount := fun _ => lt_of_mem_codePoints
  rw [readText?, readUnits?_text hpoints, Option.map_some, joinPairs_units hpoints h.2, h.1]

end Json
end RollupAudit
