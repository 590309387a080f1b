import Mathlib.Data.List.DropRight
import RollupAudit.Text.Blank

/-!
# Trimmed texts

What is left of a text without the characters of a class at either end neither starts nor ends with
such a character, so that trimming it again changes nothing. It is a part of the text.

**Results.**
* `trimBy_eq_self`: a text that neither starts nor ends with characters of the class is kept.
* `trimBy_trimBy`, `strip_strip`: trimming twice is trimming once.
* `trimBy_isInfix`: what is left stands in the text.
-/

namespace RollupAudit
namespace Text

variable {p : Char → Bool} {cs : List Char}

/-- That a text neither starts nor ends with a character of a class. -/
structure IsTrimmed (p : Char → Bool) (cs : List Char) : Prop where
  first : ∀ c ∈ cs.head?, p c = false
  last : ∀ c ∈ cs.getLast?, p c = false

/-- A text without any character of the class is trimmed. -/
theorem isTrimmed_of_forall
    (h : ∀ c ∈ cs, p c = false) :
    IsTrimmed p cs :=
  ⟨fun c hc => h c (List.mem_of_head? hc), fun c hc => h c (List.mem_of_getLast? hc)⟩

theorem trimBy_eq
    (p : Char → Bool)
    (cs : List Char) :
    trimBy p cs = (cs.dropWhile p).rdropWhile p := rfl

/-- A text with nothing to remove at either end is kept as it is. -/
theorem trimBy_eq_self (h : IsTrimmed p cs) : trimBy p cs = cs := by
  have hfirst : cs.dropWhile p = cs := by
    cases cs with
    | nil => rfl
    | cons c cs => simp [h.first c rfl]
  rw [trimBy_eq, hfirst, List.rdropWhile_eq_self_iff]
  intro hne
  have hlast := h.last (cs.getLast hne) (List.getLast?_eq_some_getLast hne)
  simp [hlast]

/-- A trimmed text neither starts nor ends with a character of the class. -/
theorem isTrimmed_trimBy
    (p : Char → Bool)
    (cs : List Char) :
    IsTrimmed p (trimBy p cs) where
  first := by
    intro c hc
    rw [trimBy_eq] at hc
    obtain ⟨rest, hrest⟩ := List.rdropWhile_prefix p (cs.dropWhile p)
    have hhead : (cs.dropWhile p).head? = some c := by
      rw [← hrest, List.head?_append, hc]
      rfl
    have hnot := List.head?_dropWhile_not p cs
    rw [hhead] at hnot
    simpa using hnot
  last := by
    intro c hc
    rw [trimBy_eq] at hc
    have hne : (cs.dropWhile p).rdropWhile p ≠ [] := by
      intro hnil
      rw [hnil] at hc
      cases hc
    have hlast := List.rdropWhile_last_not p (cs.dropWhile p) hne
    rw [List.getLast?_eq_some_getLast hne, Option.mem_def, Option.some.injEq] at hc
    rw [hc] at hlast
    simpa using hlast

/-- Trimming twice is trimming once. -/
theorem trimBy_trimBy
    (p : Char → Bool)
    (cs : List Char) :
    trimBy p (trimBy p cs) = trimBy p cs :=
  trimBy_eq_self (isTrimmed_trimBy p cs)

/-- A text without outer blanks stays as it is. -/
theorem strip_strip (s : String) : strip (strip s) = strip s := by
  simp only [strip, String.toList_ofList, trimBy_trimBy]

theorem trimBy_isInfix
    (p : Char → Bool)
    (cs : List Char) :
    trimBy p cs <:+: cs :=
  (List.rdropWhile_prefix p _).isInfix.trans (List.dropWhile_suffix p).isInfix

theorem length_strip_le (s : String) : (strip s).length ≤ s.length := by
  rw [strip, String.length_ofList, ← String.length_toList]
  exact (trimBy_isInfix isBlank s.toList).length_le

end Text
end RollupAudit
