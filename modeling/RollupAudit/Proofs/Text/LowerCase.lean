import RollupAudit.Proofs.Text.Trim
import RollupAudit.Text.LetterCase
import RollupAudit.Text.Scientific

/-!
# Lower case of a trimmed text

The lower-case image of a character consists of characters that are their own images wherever they
stand, and it has no blank unless the character is one. So a trimmed text in lower case stays as it
is when it is trimmed and put in lower case again. The case of ASCII letters is lost wherever they stand,
beside a sigma too.

**Results.**
* `isLower_of_lookup`: the images of the table are in lower case and not blank.
* `lower_strip_lower_strip`: trimming and lower case twice is the same as once.
* `lower_eq_of_asciiLower_eq`: texts that differ in the case of ASCII letters have one text in lower
  case.
* `lower_eq_iff`: only a text of ASCII letters is a word of plain small letters in lower case.
-/

namespace RollupAudit
namespace Text

namespace CaseRun

/-- The first image of a run. -/
def firstImage (r : CaseRun) : Nat := (Int.ofNat r.first + r.offset).toNat

/-- The last image of a run. -/
def lastImage (r : CaseRun) : Nat := (Int.ofNat r.last + r.offset).toNat

/-- Whether the images of a run lie outside of a range. -/
def avoids (r : CaseRun) (low high : Nat) : Bool :=
  Nat.blt high r.firstImage || Nat.blt r.lastImage low

/-- Whether no image of a run is in another run: they do not meet, or only the odd places of one meet
the even places of the other. -/
def leaves (r q : CaseRun) : Bool :=
  r.avoids q.first q.last ||
    ((Nat.beq r.step 2 || Nat.beq r.first r.last) && Nat.beq q.step 2 &&
      Nat.beq ((r.firstImage + q.first) % 2) 1)

/-- Whether a run holds a code point. -/
def holds (r : CaseRun) (n : Nat) : Bool :=
  r.first ≤ n && n ≤ r.last && (n - r.first) % r.step == 0

/-- The image of a code point under a run. -/
def image (r : CaseRun) (n : Nat) : Nat := (Int.ofNat n + r.offset).toNat

theorem exists_of_lookup
    {runs : List CaseRun} {n m : Nat}
    (h : lookup runs n = some m) :
    ∃ r ∈ runs, r.holds n = true ∧ r.image n = m := by
  obtain ⟨r, hfind, himage⟩ := Option.map_eq_some_iff.mp h
  have hholds : r.holds n = true := by simpa [holds] using List.find?_some hfind
  exact ⟨r, List.mem_of_find?_eq_some hfind, hholds, himage⟩

theorem lookup_eq_none
    {runs : List CaseRun} {n : Nat}
    (h : ∀ q ∈ runs, q.holds n = false) :
    lookup runs n = none := by
  rw [lookup, Option.map_eq_none_iff, List.find?_eq_none]
  intro q hq
  simpa [holds] using h q hq

/-- Whether the images of a run start where they should, so that they are in the order of the code
points. -/
def isShifted (r : CaseRun) : Bool := Nat.ble (-r.offset).toNat r.first

variable {r q : CaseRun} {n : Nat}

/-- The image of a code point is as far from the first image as the code point from the first. -/
theorem image_eq
    (hshift : r.isShifted = true)
    (hn : r.holds n = true) :
    r.image n = r.firstImage + (n - r.first) ∧ r.image n ≤ r.lastImage := by
  simp only [isShifted, Nat.ble_eq] at hshift
  simp only [holds, Bool.and_eq_true, decide_eq_true_eq] at hn
  simp only [image, firstImage, lastImage, Int.ofNat_eq_natCast]
  omega

theorem image_not_mem_range
    (hshift : r.isShifted = true)
    (hn : r.holds n = true)
    {low high : Nat}
    (h : r.avoids low high = true) :
    r.image n < low ∨ high < r.image n := by
  obtain ⟨heq, hle⟩ := image_eq hshift hn
  simp only [avoids, Bool.or_eq_true, Nat.blt_eq] at h
  omega

/-- The image of a code point is not in a run that the images leave. -/
theorem holds_image
    (hshift : r.isShifted = true)
    (hn : r.holds n = true)
    (h : r.leaves q = true) :
    q.holds (r.image n) = false := by
  obtain ⟨heq, hle⟩ := image_eq hshift hn
  simp only [leaves, Bool.or_eq_true, Bool.and_eq_true, Nat.beq_eq] at h
  rcases h with havoid | ⟨⟨hstep, hq⟩, hparity⟩
  · rcases image_not_mem_range hshift hn havoid with hlt | hlt <;> simp [holds] <;> omega
  · simp only [holds, Bool.and_eq_true, decide_eq_true_eq, beq_iff_eq] at hn
    simp only [holds, Bool.and_eq_false_iff, decide_eq_false_iff_not, beq_eq_false_iff_ne, hq]
    rcases hstep with hstep | hstep
    · rw [hstep] at hn
      omega
    · omega

/-- Whether the images of a run are characters that have no lower case of their own and are not
blank. -/
def isSettled (r : CaseRun) : Bool :=
  r.isShifted && lowerRuns.all r.leaves && r.avoids 0x3a3 0x3a3 && r.avoids 0x130 0x130 &&
    r.avoids 0xd800 0xdfff && Nat.blt r.lastImage 0x110000 && r.avoids 0x1c 0x1f &&
    whiteSpaceRanges.all fun w => r.avoids w.1 w.2

theorem all_isSettled : lowerRuns.all isSettled = true := by decide +kernel

theorem isShifted_of_mem
    (h : r ∈ lowerRuns) :
    r.isShifted = true := by
  have hsettled := List.all_eq_true.mp all_isSettled r h
  simp only [isSettled, Bool.and_eq_true] at hsettled
  exact hsettled.1.1.1.1.1.1.1

end CaseRun

/-- Whether a character is its own lower-case image wherever it stands. -/
def isLower (c : Char) : Bool :=
  c.toNat != 0x3a3 && c.toNat != 0x130 && (CaseRun.lookup lowerRuns c.toNat).isNone

theorem lowerChar_of_isLower
    {c : Char}
    (h : isLower c = true)
    (before after : List Char) :
    lowerChar before c after = [c] := by
  simp only [isLower, Bool.and_eq_true, bne_iff_ne, Option.isNone_iff_eq_none] at h
  obtain ⟨⟨hsigma, hdotted⟩, hlookup⟩ := h
  simp [lowerChar, hsigma, hdotted, hlookup]

theorem lowerFrom_of_isLower : ∀ (cs before : List Char), (∀ c ∈ cs, isLower c = true) →
    lowerFrom before cs = cs
  | [], _, _ => rfl
  | c :: cs, before, h => by
    have ih := lowerFrom_of_isLower cs (c :: before) fun d hd => h d (List.mem_cons_of_mem c hd)
    rw [lowerFrom, lowerChar_of_isLower (h c List.mem_cons_self), ih]
    rfl

theorem toNat_ofNat
    {n : Nat}
    (h : n.isValidChar) :
    (Char.ofNat n).toNat = n := by
  unfold Char.ofNat
  rw [dif_pos h]
  rfl

/-- An image under the table is in lower case and not blank. -/
theorem isLower_of_lookup
    {n m : Nat}
    (h : CaseRun.lookup lowerRuns n = some m) :
    isLower (Char.ofNat m) = true ∧ isBlank (Char.ofNat m) = false := by
  obtain ⟨r, hr, hholds, rfl⟩ := CaseRun.exists_of_lookup h
  have hsettled := List.all_eq_true.mp CaseRun.all_isSettled r hr
  simp only [CaseRun.isSettled, Bool.and_eq_true, List.all_eq_true, Nat.blt_eq] at hsettled
  obtain ⟨⟨⟨⟨⟨⟨⟨hshift, hleaves⟩, hsigma⟩, hdotted⟩, hsurrogate⟩, hmax⟩, hseparator⟩, hwhite⟩ :=
    hsettled
  obtain ⟨-, hle⟩ := CaseRun.image_eq hshift hholds
  have hvalid : (r.image n).isValidChar := by
    have := CaseRun.image_not_mem_range hshift hholds hsurrogate
    unfold Nat.isValidChar
    omega
  have hleft : CaseRun.lookup lowerRuns (r.image n) = none :=
    CaseRun.lookup_eq_none fun q hq => CaseRun.holds_image hshift hholds (hleaves q hq)
  have hsigma := CaseRun.image_not_mem_range hshift hholds hsigma
  have hdotted := CaseRun.image_not_mem_range hshift hholds hdotted
  have hseparator := CaseRun.image_not_mem_range hshift hholds hseparator
  have hwhite : inRanges whiteSpaceRanges (r.image n) = false := by
    rw [Bool.eq_false_iff, ne_eq, inRanges_iff]
    rintro ⟨w, hw, hlow, hhigh⟩
    rcases CaseRun.image_not_mem_range hshift hholds (hwhite w hw) with hlt | hlt <;> omega
  constructor
  · simp only [isLower, toNat_ofNat hvalid, hleft, Option.isNone_none, Bool.and_true,
      Bool.and_eq_true, bne_iff_ne]
    omega
  · simp only [isBlank, isWhiteSpace, toNat_ofNat hvalid, hwhite, Bool.or_false,
      Bool.and_eq_false_iff, decide_eq_false_iff_not]
    omega

/-- The images that are not in the table, of the sigma and the dotted capital, are in lower case and not
blank. -/
theorem isLower_of_mem_fixed
    {d : Char}
    (h : d ∈ ['\u03c2', '\u03c3', 'i', '\u0307']) :
    isLower d = true ∧ isBlank d = false := by
  simp only [List.mem_cons, List.not_mem_nil, or_false] at h
  rcases h with rfl | rfl | rfl | rfl <;> decide

/-- The image of a character is a text in lower case, and it has a blank only if the character is
one. -/
theorem lowerChar_spec
    (before : List Char)
    (c : Char)
    (after : List Char) :
    lowerChar before c after ≠ [] ∧
      ∀ d ∈ lowerChar before c after,
        isLower d = true ∧ (isBlank c = false → isBlank d = false) := by
  have hfixed {cs : List Char} (hcs : cs ⊆ ['\u03c2', '\u03c3', 'i', '\u0307']) :
      ∀ d ∈ cs, isLower d = true ∧ (isBlank c = false → isBlank d = false) := by
    intro d hd
    obtain ⟨hlower, hblank⟩ := isLower_of_mem_fixed (hcs hd)
    exact ⟨hlower, fun _ => hblank⟩
  unfold lowerChar
  split
  · split
    · exact ⟨by simp, hfixed (by simp)⟩
    · exact ⟨by simp, hfixed (by simp)⟩
  · rename_i hsigma
    split
    · exact ⟨by simp, hfixed (by simp)⟩
    · rename_i hdotted
      cases hlookup : CaseRun.lookup lowerRuns c.toNat with
      | some n =>
        obtain ⟨hlower, hblank⟩ := isLower_of_lookup hlookup
        refine ⟨by simp, fun d hd => ?_⟩
        obtain rfl : d = Char.ofNat n := by simpa using hd
        exact ⟨hlower, fun _ => hblank⟩
      | none =>
        refine ⟨by simp, fun d hd => ?_⟩
        obtain rfl : d = c := by simpa using hd
        refine ⟨?_, id⟩
        simp [isLower, hsigma, hdotted, hlookup]

theorem isLower_of_mem_lowerFrom
    {d : Char} :
    ∀ (cs before : List Char), d ∈ lowerFrom before cs → isLower d = true
  | [], _, h => by cases h
  | c :: cs, before, h => by
    rcases List.mem_append.mp h with hhead | htail
    · exact ((lowerChar_spec before c cs).2 d hhead).1
    · exact isLower_of_mem_lowerFrom cs (c :: before) htail

/-- A trimmed text is still trimmed in lower case: its first character comes from the first one. -/
theorem head?_lowerFrom
    {cs before : List Char}
    (h : ∀ c ∈ cs.head?, isBlank c = false) :
    ∀ d ∈ (lowerFrom before cs).head?, isBlank d = false := by
  intro d hd
  cases cs with
  | nil => cases hd
  | cons c cs =>
    obtain ⟨hne, hspec⟩ := lowerChar_spec before c cs
    rw [lowerFrom, List.head?_append, List.head?_eq_some_head hne] at hd
    have hmem : d ∈ lowerChar before c cs := by
      cases hd
      exact List.head_mem hne
    exact (hspec d hmem).2 (h c rfl)

/-- A trimmed text is still trimmed in lower case: its last character comes from the last one. -/
theorem getLast?_lowerFrom :
    ∀ (cs before : List Char), (∀ c ∈ cs.getLast?, isBlank c = false) →
      ∀ d ∈ (lowerFrom before cs).getLast?, isBlank d = false
  | [], _, _, d, hd => by cases hd
  | [c], before, h, d, hd => by
    obtain ⟨hne, hspec⟩ := lowerChar_spec before c []
    rw [lowerFrom, lowerFrom, List.append_nil, List.getLast?_eq_some_getLast hne] at hd
    have hmem : d ∈ lowerChar before c [] := by
      cases hd
      exact List.getLast_mem hne
    exact (hspec d hmem).2 (h c rfl)
  | c :: c' :: cs, before, h, d, hd => by
    obtain ⟨hne, -⟩ := lowerChar_spec (c :: before) c' cs
    have hrest : lowerFrom (c :: before) (c' :: cs) ≠ [] := by simp [lowerFrom, hne]
    rw [lowerFrom, List.getLast?_append_of_ne_nil _ hrest] at hd
    exact getLast?_lowerFrom (c' :: cs) (c :: before) (by simpa using h) d hd

/-- A trimmed text in lower case stays as it is when it is trimmed and put in lower case again. -/
theorem lower_strip_lower_strip
    (s : String) :
    lower (strip (lower (strip s))) = lower (strip s) := by
  have htrimmed := isTrimmed_trimBy isBlank s.toList
  have hlower : IsTrimmed isBlank (lowerFrom [] (trimBy isBlank s.toList)) :=
    ⟨head?_lowerFrom htrimmed.first, getLast?_lowerFrom _ [] htrimmed.last⟩
  simp only [lower, strip, String.toList_ofList, trimBy_eq_self hlower]
  rw [lowerFrom_of_isLower _ _ fun d hd => isLower_of_mem_lowerFrom _ _ hd]

/-! ## Letters of the ASCII range -/

/-- That a character is a capital of the ASCII range. -/
def IsAsciiCapital (c : Char) : Prop := 65 ≤ c.toNat ∧ c.toNat ≤ 90

theorem toLower_eq_self
    {c : Char}
    (h : ¬ IsAsciiCapital c) :
    c.toLower = c := by
  unfold Char.toLower
  rw [dif_neg]
  exact h

/-- A capital of the ASCII range has the small letter for its image wherever it stands, and bears on
its neighbours as the small letter does. -/
theorem spec_of_isAsciiCapital
    {c : Char}
    (h : IsAsciiCapital c) :
    isCaseIgnorable c.toLower = isCaseIgnorable c ∧ isCased c.toLower = isCased c ∧
      isLower c.toLower = true ∧ ∀ before after, lowerChar before c after = [c.toLower] := by
  have hall : ∀ n < 91, 65 ≤ n →
      isCaseIgnorable (Char.ofNat n).toLower = isCaseIgnorable (Char.ofNat n) ∧
        isCased (Char.ofNat n).toLower = isCased (Char.ofNat n) ∧
          isLower (Char.ofNat n).toLower = true ∧
            CaseRun.lookup lowerRuns (Char.ofNat n).toNat = some (Char.ofNat n).toLower.toNat := by
    decide +kernel
  have hc := hall c.toNat (by have := h.2; omega) h.1
  rw [Char.ofNat_toNat] at hc
  obtain ⟨hignorable, hcased, hlower, hlookup⟩ := hc
  refine ⟨hignorable, hcased, hlower, fun before after => ?_⟩
  obtain ⟨hfirst, hlast⟩ := h
  rw [lowerChar, if_neg (by omega), if_neg (by omega), hlookup]
  simp

theorem isCased_toLower
    (c : Char) :
    isCaseIgnorable c.toLower = isCaseIgnorable c ∧ isCased c.toLower = isCased c := by
  by_cases h : IsAsciiCapital c
  · obtain ⟨hignorable, hcased, -⟩ := spec_of_isAsciiCapital h
    exact ⟨hignorable, hcased⟩
  · rw [toLower_eq_self h]
    exact ⟨rfl, rfl⟩

theorem nextIsCased_asciiLower
    (cs : List Char) :
    nextIsCased (asciiLower cs) = nextIsCased cs := by
  induction cs with
  | nil => rfl
  | cons c cs ih =>
    obtain ⟨hignorable, hcased⟩ := isCased_toLower c
    unfold nextIsCased asciiLower at ih ⊢
    rw [List.map_cons, List.dropWhile_cons, List.dropWhile_cons, hignorable]
    cases isCaseIgnorable c with
    | true => exact ih
    | false => exact hcased

theorem lowerChar_toLower
    (before : List Char)
    (c : Char)
    (after : List Char) :
    lowerChar (asciiLower before) c.toLower (asciiLower after) = lowerChar before c after := by
  by_cases h : IsAsciiCapital c
  · obtain ⟨-, -, hlower, himage⟩ := spec_of_isAsciiCapital h
    rw [himage, lowerChar_of_isLower hlower]
  · rw [toLower_eq_self h]
    simp only [lowerChar, nextIsCased_asciiLower]

theorem lowerFrom_asciiLower
    (before cs : List Char) :
    lowerFrom (asciiLower before) (asciiLower cs) = lowerFrom before cs := by
  induction cs generalizing before with
  | nil => rfl
  | cons c cs ih =>
    have htail := ih (c :: before)
    have hhead := lowerChar_toLower before c cs
    simp only [asciiLower, List.map_cons, lowerFrom] at htail hhead ⊢
    rw [hhead, htail]

/-- Texts that differ in the case of ASCII letters have one text in lower case. -/
theorem lower_eq_of_asciiLower_eq
    {s t : String}
    (h : asciiLower s.toList = asciiLower t.toList) :
    lower s = lower t := by
  rw [lower, lower, ← lowerFrom_asciiLower [] s.toList, ← lowerFrom_asciiLower [] t.toList, h]

/-! ## Words of small letters -/

/-- That a character is a small letter of the ASCII range that is the image of no character beyond it.
The letter k is that of the sign for kelvins. -/
def IsPlainSmall (c : Char) : Prop := 97 ≤ c.toNat ∧ c.toNat ≤ 122 ∧ c ≠ 'k'

instance (c : Char) : Decidable (IsPlainSmall c) :=
  inferInstanceAs (Decidable (97 ≤ c.toNat ∧ c.toNat ≤ 122 ∧ c ≠ 'k'))

theorem spec_of_isPlainSmall
    {c : Char}
    (h : IsPlainSmall c) :
    c.toLower = c ∧ isLower c = true := by
  have hall : ∀ n < 123, 97 ≤ n →
      (Char.ofNat n).toLower = Char.ofNat n ∧ isLower (Char.ofNat n) = true := by
    decide +kernel
  have hc := hall c.toNat (by have := h.2.1; omega) h.1
  rwa [Char.ofNat_toNat] at hc

/-- The images of the table beyond the capitals of the ASCII range are none of its small letters but k. -/
theorem avoids_small_of_mem :
    ∀ r ∈ lowerRuns, (65 ≤ r.first ∧ r.last ≤ 90) ∨ (r.avoids 97 106 ∧ r.avoids 108 122) := by
  decide +kernel

theorem toNat_ofNat_of_pos
    {n : Nat}
    (h : 0 < (Char.ofNat n).toNat) :
    (Char.ofNat n).toNat = n := by
  by_cases hvalid : n.isValidChar
  · exact toNat_ofNat hvalid
  · rw [Char.ofNat, dif_neg hvalid] at h
    exact absurd h (by decide)

/-- Only a letter of the ASCII range has an image of plain small letters. -/
theorem lowerChar_eq_of_forall_isPlainSmall
    {before after : List Char} {c : Char}
    (h : ∀ d ∈ lowerChar before c after, IsPlainSmall d) :
    lowerChar before c after = [c.toLower] := by
  by_cases hcapital : IsAsciiCapital c
  · obtain ⟨-, -, -, himage⟩ := spec_of_isAsciiCapital hcapital
    exact himage before after
  rw [toLower_eq_self hcapital]
  unfold lowerChar at h ⊢
  split at h
  · split at h
    · exact absurd (h _ List.mem_cons_self) (by decide)
    · exact absurd (h _ List.mem_cons_self) (by decide)
  · rename_i hsigma
    rw [if_neg hsigma]
    split at h
    · exact absurd (h '\u0307' (by simp)) (by decide)
    · rename_i hdotted
      rw [if_neg hdotted]
      cases hlookup : CaseRun.lookup lowerRuns c.toNat with
      | none => rfl
      | some n =>
        exfalso
        rw [hlookup] at h
        obtain ⟨hfirst, hlast, hk⟩ := h _ List.mem_cons_self
        have hn : (Char.ofNat n).toNat = n := toNat_ofNat_of_pos (by omega)
        rw [hn] at hfirst hlast
        obtain ⟨r, hr, hholds, himage⟩ := CaseRun.exists_of_lookup hlookup
        rcases avoids_small_of_mem r hr with ⟨hfrom, hto⟩ | ⟨hbelow, habove⟩
        · simp only [CaseRun.holds, Bool.and_eq_true, decide_eq_true_eq] at hholds
          exact hcapital ⟨by omega, by omega⟩
        · have hshift := CaseRun.isShifted_of_mem hr
          have hne : n ≠ 107 := by
            rintro rfl
            exact hk rfl
          rw [← himage] at hfirst hlast hne
          have := CaseRun.image_not_mem_range hshift hholds hbelow
          have := CaseRun.image_not_mem_range hshift hholds habove
          omega

/-- A text whose lower case is a word of plain small letters is the word but for the case of its
letters. -/
theorem asciiLower_eq_of_lowerFrom_eq
    {word : List Char}
    (hword : ∀ d ∈ word, IsPlainSmall d) :
    ∀ (cs before : List Char), lowerFrom before cs = word → asciiLower cs = word
  | [], _, h => h
  | c :: cs, before, h => by
    rw [lowerFrom] at h
    subst h
    have hhead := lowerChar_eq_of_forall_isPlainSmall fun d hd => hword d (List.mem_append_left _ hd)
    have htail := asciiLower_eq_of_lowerFrom_eq (fun d hd => hword d (List.mem_append_right _ hd)) cs
      (c :: before) rfl
    rw [hhead, ← htail]
    rfl

/-- A text in lower case is a word of plain small letters exactly if the text is the word but for the
case of its letters. -/
theorem lower_eq_iff
    {s word : String}
    (hword : ∀ d ∈ word.toList, IsPlainSmall d) :
    lower s = word ↔ asciiLower s.toList = word.toList := by
  constructor
  · rintro rfl
    rw [lower, String.toList_ofList] at hword ⊢
    exact asciiLower_eq_of_lowerFrom_eq hword _ _ rfl
  · intro h
    have hfixed : asciiLower word.toList = word.toList :=
      (List.map_congr_left fun d hd => (spec_of_isPlainSmall (hword d hd)).1).trans (List.map_id' _)
    have hlower : lower word = word := by
      rw [lower, lowerFrom_of_isLower _ _ fun d hd => (spec_of_isPlainSmall (hword d hd)).2,
        String.ofList_toList]
    rw [← hlower]
    exact lower_eq_of_asciiLower_eq (h.trans hfixed.symm)

/-- A text has an empty lower case only if it is empty. -/
theorem lower_eq_empty_iff
    {s : String} :
    lower s = "" ↔ s = "" := by
  constructor
  · intro h
    cases hs : s.toList with
    | nil => exact String.toList_eq_nil_iff.mp hs
    | cons c cs =>
      have hnil : lowerFrom [] s.toList = [] := by
        simpa [lower] using h
      rw [hs, lowerFrom] at hnil
      exact absurd (List.append_eq_nil_iff.mp hnil).1 (lowerChar_spec [] c cs).1
  · rintro rfl
    rfl

end Text
end RollupAudit
