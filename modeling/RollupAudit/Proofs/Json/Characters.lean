import RollupAudit.Files.Document
import RollupAudit.Proofs.Json.RoundTrip
import RollupAudit.Proofs.Text.Utf8

/-!
# Characters of JSON texts

A JSON text is in ASCII and has no carriage return, whatever texts and keys the value holds. So its
octets spell it again, and unifying the line ends leaves it as it is.

**Results.**
* `Json.isPlainText_render`: the text of a value has plain characters only.
* `Json.octets_writeAsIs`: there are octets for the text of a value.
* `Files.unifyLineEnds_of_isPlainText`: the line ends of a plain text are of one kind.
-/

namespace RollupAudit
namespace Json

open Text

/-- A character of the ASCII range, but no carriage return. -/
def IsPlainChar (c : Char) : Prop := c.toNat < 0x80 ∧ c ≠ '\r'

instance (c : Char) : Decidable (IsPlainChar c) := inferInstanceAs (Decidable (_ ∧ _))

/-- Only ASCII characters, and no carriage return among them. -/
def IsPlainText (cs : List Char) : Prop := ∀ c ∈ cs, IsPlainChar c

instance (cs : List Char) : Decidable (IsPlainText cs) := List.decidableBAll IsPlainChar cs

@[simp] theorem isPlainText_nil : IsPlainText [] := by
  intro c hc
  cases hc

@[simp] theorem isPlainText_cons
    {c : Char} {cs : List Char} :
    IsPlainText (c :: cs) ↔ IsPlainChar c ∧ IsPlainText cs :=
  List.forall_mem_cons

@[simp] theorem isPlainText_append
    {cs ds : List Char} :
    IsPlainText (cs ++ ds) ↔ IsPlainText cs ∧ IsPlainText ds :=
  List.forall_mem_append

theorem isPlainText_flatMap
    {α : Type} {f : α → List Char} {items : List α}
    (h : ∀ a ∈ items, IsPlainText (f a)) :
    IsPlainText (items.flatMap f) := by
  intro c hc
  obtain ⟨a, ha, hmem⟩ := List.mem_flatMap.mp hc
  exact h a ha c hmem

theorem isPlainChar_of_isNumeric
    {c : Char}
    (h : isNumeric c = true) :
    IsPlainChar c := by
  refine ⟨toNat_lt_of_isNumeric h, ?_⟩
  rintro rfl
  cases h

/-- The digits of a number in a base up to sixteen are plain. -/
theorem isPlainText_toDigits
    {base : Nat}
    (hlow : 1 < base)
    (hhigh : base ≤ 16)
    (n : Nat) :
    IsPlainText (Nat.toDigits base n) := by
  have hall : ∀ d < 16, IsPlainChar (Nat.digitChar d) := by decide
  intro c hc
  obtain ⟨d, hd, rfl⟩ := exists_digit_of_mem_toDigits hlow hc
  exact hall d (by omega)

/-- An escaped UTF-16 unit is plain. -/
theorem isPlainText_unitEscape (n : Nat) : IsPlainText (unitEscape n) := by
  have hzeros (count : Nat) : IsPlainText (List.replicate count '0') := by
    intro c hc
    rw [List.eq_of_mem_replicate hc]
    decide
  simp only [unitEscape, paddedDigits, isPlainText_cons, isPlainText_append]
  exact ⟨by decide, by decide, hzeros _, isPlainText_toDigits (by decide) (by decide) n⟩

/-- A character within quotes is written in plain characters. -/
theorem isPlainText_escaped (c : Char) : IsPlainText (escaped c) := by
  unfold escaped
  iterate 7
    split
    · decide
  split
  · rename_i hreturn _ _ _ hrange
    exact isPlainText_cons.mpr ⟨⟨by omega, hreturn⟩, isPlainText_nil⟩
  · split
    · exact isPlainText_unitEscape _
    · exact isPlainText_append.mpr ⟨isPlainText_unitEscape _, isPlainText_unitEscape _⟩

/-- A code point within quotes is written in plain characters. -/
theorem isPlainText_escapedPoint (n : Nat) : IsPlainText (escapedPoint n) := by
  unfold escapedPoint
  split
  · exact isPlainText_unitEscape n
  · exact isPlainText_escaped _

/-- A quoted text is plain. -/
theorem isPlainText_quote (s : String) : IsPlainText (quote s) := by
  have hescaped : IsPlainText ((codePoints s.toList).flatMap escapedPoint) :=
    isPlainText_flatMap fun n _ => isPlainText_escapedPoint n
  simp only [quote, isPlainText_append, isPlainText_cons, isPlainText_nil, and_true]
  exact ⟨⟨by decide, hescaped⟩, by decide⟩

/-- The text of an integer is plain. -/
theorem isPlainText_intText (n : Int) : IsPlainText (intText n).toList := by
  cases n with
  | ofNat n =>
    rw [intText, String.toList_ofList]
    exact isPlainText_toDigits (by decide) (by decide) n
  | negSucc n =>
    rw [intText, String.toList_ofList]
    exact isPlainText_cons.mpr ⟨by decide, isPlainText_toDigits (by decide) (by decide) _⟩

/-- The text of a floating-point number is plain. -/
theorem isPlainText_numberText (x : Binary64) : IsPlainText (numberText x) := by
  cases x with
  | nan => decide
  | infinite negative => cases negative <;> decide
  | finite negative rank =>
    obtain ⟨n, htext, -, -⟩ := Binary64.exists_numeral rank
    have hplain : IsPlainText n.text := fun c hc =>
      isPlainChar_of_isNumeric (Numeral.isNumeric_of_mem_text hc)
    rw [numberText_finite htext]
    cases negative with
    | false => exact hplain
    | true => exact isPlainText_cons.mpr ⟨by decide, hplain⟩

/-- A layout with plain separators. -/
structure Layout.IsPlain (layout : Layout) : Prop where
  itemSeparator : IsPlainText layout.itemSeparator.toList
  keySeparator : IsPlainText layout.keySeparator.toList

theorem Layout.isPlain_lines (indent : Nat) : (Layout.lines indent).IsPlain :=
  ⟨by simp only [lines]; decide, by simp only [lines]; decide⟩

/-- The start of a line is plain. -/
theorem isPlainText_newline
    (layout : Layout)
    (level : Nat) :
    IsPlainText (layout.newline level) := by
  unfold Layout.newline
  split
  · exact isPlainText_nil
  · refine isPlainText_cons.mpr ⟨by decide, fun c hc => ?_⟩
    rw [List.eq_of_mem_replicate hc]
    decide

variable {layout : Layout}

/-- Plain items are joined to a plain text. -/
theorem isPlainText_joined
    (hlayout : layout.IsPlain)
    (level : Nat)
    {open_ close : Char}
    (hopen : IsPlainChar open_)
    (hclose : IsPlainChar close)
    {items : List (List Char)}
    (hitems : ∀ item ∈ items, IsPlainText item) :
    IsPlainText (joined layout level open_ close items) := by
  have hnewline := isPlainText_newline layout
  cases items with
  | nil => simp [joined, hopen, hclose]
  | cons item items =>
    have hrest := isPlainText_flatMap (f := fun item =>
        layout.itemSeparator.toList ++ layout.newline (level + 1) ++ item) fun item' hmem =>
      isPlainText_append.mpr ⟨isPlainText_append.mpr ⟨hlayout.itemSeparator, hnewline (level + 1)⟩,
        hitems item' (List.mem_cons_of_mem item hmem)⟩
    simp only [joined, isPlainText_append, isPlainText_cons, isPlainText_nil, and_true]
    exact ⟨⟨⟨⟨⟨hopen, hnewline (level + 1)⟩, hitems item List.mem_cons_self⟩, hrest⟩,
      hnewline level⟩, hclose⟩

mutual

/-- The text of a value is plain. -/
theorem isPlainText_render
    (hlayout : layout.IsPlain) :
    ∀ (v : Json) (level : Nat),
    IsPlainText (render layout level v)
  | .null, _ => (by decide : IsPlainText "null".toList)
  | .bool false, _ => (by decide : IsPlainText "false".toList)
  | .bool true, _ => (by decide : IsPlainText "true".toList)
  | .int n, _ => isPlainText_intText n
  | .float x, _ => isPlainText_numberText x
  | .text s, _ => isPlainText_quote s
  | .array items, level =>
    isPlainText_joined hlayout level (by decide) (by decide)
      (isPlainText_of_mem_renderItems hlayout items (level + 1))
  | .object members, level =>
    isPlainText_joined hlayout level (by decide) (by decide)
      (isPlainText_of_mem_renderMembers hlayout members (level + 1))

theorem isPlainText_of_mem_renderItems
    (hlayout : layout.IsPlain) :
    ∀ (vs : List Json) (level : Nat),
    ∀ item ∈ renderItems layout level vs, IsPlainText item
  | [], _ => fun _ h => nomatch h
  | v :: vs, level => List.forall_mem_cons.mpr
    ⟨isPlainText_render hlayout v level, isPlainText_of_mem_renderItems hlayout vs level⟩

theorem isPlainText_of_mem_renderMembers
    (hlayout : layout.IsPlain) :
    ∀ (ms : List (String × Json)) (level : Nat),
      ∀ item ∈ renderMembers layout level ms, IsPlainText item
  | [], _ => fun _ h => nomatch h
  | (key, v) :: ms, level => List.forall_mem_cons.mpr
    ⟨isPlainText_append.mpr ⟨isPlainText_append.mpr ⟨isPlainText_quote key, hlayout.keySeparator⟩,
      isPlainText_render hlayout v level⟩, isPlainText_of_mem_renderMembers hlayout ms level⟩

end

theorem octets_ofList_of_isPlainText
    {cs : List Char}
    (h : IsPlainText cs) :
    octets (String.ofList cs) = .ok (encodeUtf8 (String.ofList cs)) := by
  refine octets_of_notMem (halfMark_notMem_of_isAscii fun c hc => ?_)
  rw [String.toList_ofList] at hc
  exact (h c hc).1

/-- There are octets for the text of a value, whatever its texts are. -/
theorem octets_writeAsIs
    (hlayout : layout.IsPlain)
    (v : Json) :
    octets (v.writeAsIs layout) = .ok (encodeUtf8 (v.writeAsIs layout)) :=
  octets_ofList_of_isPlainText (isPlainText_render hlayout v 0)

end Json

namespace Files

open Json

/-- A plain text has one kind of line end. -/
theorem unifyLineEnds_of_isPlainText
    {cs : List Char}
    (h : IsPlainText cs) :
    unifyLineEnds cs = cs := by
  induction cs with
  | nil => rfl
  | cons c cs ih =>
    obtain ⟨hc, hcs⟩ := isPlainText_cons.mp h
    have hreturn : c ≠ '\r' := hc.2
    rw [unifyLineEnds, ih hcs]
    · exact fun _ heq _ => hreturn heq
    · exact hreturn

end Files
end RollupAudit
