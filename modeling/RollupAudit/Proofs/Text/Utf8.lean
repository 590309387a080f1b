import Mathlib.Data.List.TakeWhile
import RollupAudit.Proofs.Validation.Results
import RollupAudit.Text.Utf8

/-!
# Octets of texts

A row of octets is read as a text exactly if it is the row of the octets of the text. A character beyond
ASCII has a lead octet, after which octets in certain ranges are due; the ranges are such that every
character has one row of octets, and no other row is read as a character.

**Results.**
* `encodeUtf8_ofList`: each character of a text in ASCII is one octet.
* `utf8EncodeChar_of_leadOctet?`, `exists_leadOctet?_of_utf8EncodeChar`: the octets of a character.
* `decodeUtf8_eq_ok_iff`: which octets spell a text.
* `length_spelled_le`, `length_lt_length_quotedOctets`: characters, octets, and octets in quotes.
-/

namespace RollupAudit
namespace Text

/-- Only ASCII characters. -/
def IsAscii (cs : List Char) : Prop := ∀ c ∈ cs, c.toNat < 0x80

@[simp] theorem isAscii_nil : IsAscii [] := by
  intro c hc
  cases hc

@[simp] theorem isAscii_cons
    {c : Char} {cs : List Char} :
    IsAscii (c :: cs) ↔ c.toNat < 0x80 ∧ IsAscii cs :=
  List.forall_mem_cons

@[simp] theorem isAscii_append
    {cs ds : List Char} :
    IsAscii (cs ++ ds) ↔ IsAscii cs ∧ IsAscii ds :=
  List.forall_mem_append

theorem toNat_lt_of_isDigit
    {c : Char}
    (h : c.isDigit = true) :
    c.toNat < 0x80 := by
  exact Nat.lt_of_le_of_lt (Char.isDigit_iff_toNat.mp h).2 (by decide)

/-- The octet of an ASCII character. -/
def asciiOctet (c : Char) : UInt8 := UInt8.ofNat c.toNat

theorem toNat_asciiOctet
    {c : Char}
    (h : c.toNat < 0x80) :
    (asciiOctet c).toNat = c.toNat := by
  rw [asciiOctet, UInt8.toNat_ofNat']
  omega

theorem utf8EncodeChar_of_ascii
    {c : Char}
    (h : c.toNat < 0x80) :
    String.utf8EncodeChar c = [asciiOctet c] := by
  have hle : c.val.toNat ≤ 127 := Nat.le_of_lt_succ h
  rw [String.utf8EncodeChar]
  simp only [hle, if_true]
  rfl

/-- Listing the octets of an array from a position on, before the octets listed so far. -/
theorem toList_loop
    (bs : ByteArray)
    {n i : Nat}
    (h : bs.size = i + n)
    (acc : List UInt8) :
    ByteArray.toList.loop bs i acc = acc.reverse ++ bs.data.toList.drop i := by
  have hlength : bs.data.toList.length = i + n := h
  induction n generalizing i acc with
  | zero =>
    rw [ByteArray.toList.loop, if_neg (by omega), List.drop_eq_nil_of_le (by omega),
      List.append_nil]
  | succ n ih =>
    have hget : bs.get! i = bs.data.toList[i] := by
      rw [ByteArray.get!, getElem!_pos bs.data i (by simpa using by omega), Array.getElem_toList]
    rw [ByteArray.toList.loop, if_pos (by omega), ih (by omega) _ (by omega),
      List.drop_eq_getElem_cons (by omega : i < bs.data.toList.length), hget]
    simp

theorem toList_toByteArray
    (octets : List UInt8) :
    octets.toByteArray.toList = octets := by
  rw [ByteArray.toList, toList_loop _ (Nat.zero_add _).symm, List.toList_data_toByteArray]
  rfl

theorem encodeUtf8_ofList_eq_flatMap
    (cs : List Char) :
    encodeUtf8 (String.ofList cs) = cs.flatMap String.utf8EncodeChar := by
  rw [encodeUtf8, String.toUTF8_eq_toByteArray, String.toByteArray_ofList, List.utf8Encode,
    toList_toByteArray]

theorem encodeUtf8_eq_flatMap (s : String) :
    encodeUtf8 s = s.toList.flatMap String.utf8EncodeChar := by
  rw [← encodeUtf8_ofList_eq_flatMap, String.ofList_toList]

/-- A text in ASCII has one octet for each of its characters. -/
theorem encodeUtf8_ofList
    {cs : List Char}
    (h : IsAscii cs) :
    encodeUtf8 (String.ofList cs) = cs.map asciiOctet := by
  rw [encodeUtf8_ofList_eq_flatMap]
  induction cs with
  | nil => rfl
  | cons c cs ih =>
    rw [List.flatMap_cons, utf8EncodeChar_of_ascii (h c List.mem_cons_self),
      ih fun d hd => h d (List.mem_cons_of_mem c hd)]
    rfl

/-- Octets of ASCII characters are taken for the characters. -/
theorem map_asciiOctet
    {cs : List Char}
    (h : IsAscii cs) :
    (cs.map asciiOctet).map (fun b => Char.ofNat b.toNat) = cs := by
  rw [List.map_map, List.map_congr_left (g := id)]
  · exact List.map_id cs
  · intro c hc
    simp [toNat_asciiOctet (h c hc)]

/-! ## Texts without halves of surrogate pairs -/

theorem halfMark_notMem_of_isAscii
    {cs : List Char}
    (h : IsAscii cs) :
    halfMark ∉ cs :=
  fun hmark => absurd (h halfMark hmark) (by decide)

section NoMark

variable {s : String}

theorem characters_of_notMem
    (h : halfMark ∉ s.toList) :
    characters s = s := by
  have hchar (c : Char) : (if isHalf c.toNat then '\ufffd' else Char.ofNat c.toNat) = c := by
    simp [isHalf_toNat]
  rw [characters, codePoints_of_notMem h, List.map_map, Function.comp_def]
  simp only [hchar, List.map_id', String.ofList_toList]

theorem encodingFault?_eq_none_iff
    {isBarred : Nat → Bool} :
    encodingFault? isBarred s = none ↔ (codePoints s.toList).any isBarred = false := by
  unfold encodingFault?
  dsimp only
  split
  · rename_i hnone
    simpa [List.dropWhile_eq_nil_iff] using hnone
  · rename_i n rest hsome
    have hfind : (codePoints s.toList).find? isBarred = some n := by
      rw [List.find?_eq_head?_dropWhile_not, hsome, List.head?_cons]
    simp only [reduceCtorEq, false_iff, Bool.not_eq_false, List.any_eq_true]
    exact ⟨n, List.mem_of_find?_eq_some hfind, List.find?_some hfind⟩

theorem octets_eq_ok_iff
    {bs : List UInt8} :
    octets s = .ok bs ↔ (codePoints s.toList).any isHalf = false ∧ bs = encodeUtf8 (characters s) := by
  unfold octets
  split
  · rename_i fault hfault
    have hany : ¬ (codePoints s.toList).any isHalf = false := fun h => by
      rw [encodingFault?_eq_none_iff.mpr h] at hfault
      cases hfault
    simp [hany]
  · rename_i hnone
    simp [encodingFault?_eq_none_iff.mp hnone, eq_comm]

/-- A text without the mark is the text of its octets. -/
theorem octets_of_notMem
    (h : halfMark ∉ s.toList) :
    octets s = .ok (encodeUtf8 s) :=
  octets_eq_ok_iff.mpr ⟨any_isHalf_of_notMem h, by rw [characters_of_notMem h]⟩

end NoMark

/-! ## Characters and their octets -/

variable {position : Nat} {b : UInt8} {octets tail : List UInt8} {c : Char} {cs : List Char}

/-- That octets are in the ranges that are due for them. -/
def AreDue : List (Nat × Nat) → List UInt8 → Prop :=
  List.Forall₂ fun range b => range.1 ≤ b.toNat ∧ b.toNat ≤ range.2

/-- The number that the bits of a lead octet and of the octets after it make. -/
def joinBits (bits : Nat) (tail : List UInt8) : Nat :=
  tail.foldl (fun n b => 64 * n + b.toNat % 64) bits

theorem ofNat_eq_of_eq_toNat
    {n : Nat}
    (h : n = b.toNat) :
    UInt8.ofNat n = b := by
  rw [h, UInt8.ofNat_toNat]

/-- The octets of a number that is a character. -/
theorem utf8EncodeChar_ofNat
    {v : Nat}
    (hv : v.isValidChar) :
    String.utf8EncodeChar (Char.ofNat v) =
      if v ≤ 0x7f then [UInt8.ofNat v]
      else if v ≤ 0x7ff then [UInt8.ofNat (v / 64 % 32 + 0xc0), UInt8.ofNat (v % 64 + 0x80)]
      else if v ≤ 0xffff then
        [UInt8.ofNat (v / 4096 % 16 + 0xe0), UInt8.ofNat (v / 64 % 64 + 0x80), UInt8.ofNat (v % 64 + 0x80)]
      else
        [UInt8.ofNat (v / 262144 % 8 + 0xf0), UInt8.ofNat (v / 4096 % 64 + 0x80),
          UInt8.ofNat (v / 64 % 64 + 0x80), UInt8.ofNat (v % 64 + 0x80)] := by
  have hnat : (Char.ofNat v).val.toNat = v := by
    rw [Char.ofNat, dif_pos hv]
    rfl
  rw [String.utf8EncodeChar, hnat]

theorem utf8EncodeChar_two
    {v : Nat} {b b₁ : UInt8}
    (hv : 0x80 ≤ v ∧ v ≤ 0x7ff)
    (hb : b.toNat = v / 64 + 0xc0)
    (h₁ : b₁.toNat = v % 64 + 0x80) :
    String.utf8EncodeChar (Char.ofNat v) = [b, b₁] := by
  rw [utf8EncodeChar_ofNat (.inl (by omega)), if_neg (by omega), if_pos (by omega),
    ofNat_eq_of_eq_toNat (b := b) (by omega), ofNat_eq_of_eq_toNat (b := b₁) (by omega)]

theorem utf8EncodeChar_three
    {v : Nat} {b b₁ b₂ : UInt8}
    (hvalid : v.isValidChar)
    (hv : 0x800 ≤ v ∧ v ≤ 0xffff)
    (hb : b.toNat = v / 4096 + 0xe0)
    (h₁ : b₁.toNat = v / 64 % 64 + 0x80)
    (h₂ : b₂.toNat = v % 64 + 0x80) :
    String.utf8EncodeChar (Char.ofNat v) = [b, b₁, b₂] := by
  rw [utf8EncodeChar_ofNat hvalid, if_neg (by omega), if_neg (by omega), if_pos (by omega),
    ofNat_eq_of_eq_toNat (b := b) (by omega), ofNat_eq_of_eq_toNat h₁.symm,
    ofNat_eq_of_eq_toNat h₂.symm]

theorem utf8EncodeChar_four
    {v : Nat} {b b₁ b₂ b₃ : UInt8}
    (hv : 0x10000 ≤ v ∧ v ≤ 0x10ffff)
    (hb : b.toNat = v / 262144 + 0xf0)
    (h₁ : b₁.toNat = v / 4096 % 64 + 0x80)
    (h₂ : b₂.toNat = v / 64 % 64 + 0x80)
    (h₃ : b₃.toNat = v % 64 + 0x80) :
    String.utf8EncodeChar (Char.ofNat v) = [b, b₁, b₂, b₃] := by
  rw [utf8EncodeChar_ofNat (.inr (by omega)), if_neg (by omega), if_neg (by omega),
    if_neg (by omega), ofNat_eq_of_eq_toNat (b := b) (by omega), ofNat_eq_of_eq_toNat h₁.symm,
    ofNat_eq_of_eq_toNat h₂.symm, ofNat_eq_of_eq_toNat h₃.symm]

/-- A lead octet and those that are due after it are the octets of the character that they make. -/
theorem utf8EncodeChar_of_leadOctet?
    {bits : Nat} {due : List (Nat × Nat)}
    (hlead : leadOctet? b.toNat = some (bits, due))
    (htail : AreDue due tail) :
    String.utf8EncodeChar (Char.ofNat (joinBits bits tail)) = b :: tail := by
  -- The ranges that are due after each kind of lead octet keep out what is too long, the surrogates
  -- and what is beyond the last character.
  unfold leadOctet? at hlead
  dsimp only at hlead
  repeat' split at hlead
  all_goals cases hlead
  · obtain _ | ⟨h₁, _ | _⟩ := htail
    apply utf8EncodeChar_two <;> simp only [joinBits, List.foldl] <;> omega
  iterate 3
    · obtain _ | ⟨h₁, _ | ⟨h₂, _ | _⟩⟩ := htail
      apply utf8EncodeChar_three <;> simp only [joinBits, List.foldl, Nat.isValidChar] <;> omega
  iterate 3
    · obtain _ | ⟨h₁, _ | ⟨h₂, _ | ⟨h₃, _ | _⟩⟩⟩ := htail
      apply utf8EncodeChar_four <;> simp only [joinBits, List.foldl] <;> omega

/-- The lead octet of a character of three octets. Characters of fewer octets and surrogates are kept
out by what is due after it. -/
theorem exists_leadOctet?_three
    {v : Nat}
    (hvalid : v.isValidChar)
    (hv : 0x800 ≤ v ∧ v ≤ 0xffff) :
    ∃ low high, leadOctet? (v / 4096 % 16 + 0xe0) = some (v / 4096, [(low, high), (0x80, 0xbf)]) ∧
      low ≤ v / 64 % 64 + 0x80 ∧ v / 64 % 64 + 0x80 ≤ high := by
  by_cases hfirst : v / 4096 = 0
  · refine ⟨0xa0, 0xbf, ?_, by omega, by omega⟩
    rw [leadOctet?, if_neg (by omega), if_pos (by omega), hfirst]
  by_cases hsurrogates : v / 4096 = 13
  · refine ⟨0x80, 0x9f, ?_, by omega, by rcases hvalid with h | h <;> omega⟩
    rw [leadOctet?, if_neg (by omega), if_neg (by omega), if_pos (by omega), hsurrogates]
  · refine ⟨0x80, 0xbf, ?_, by omega, by omega⟩
    rw [leadOctet?, if_neg (by omega), if_neg (by omega), if_neg (by omega), if_pos (by omega)]
    congr 2
    omega

/-- The lead octet of a character of four octets. Characters of fewer octets and what is beyond the last
character are kept out by what is due after it. -/
theorem exists_leadOctet?_four
    {v : Nat}
    (hv : 0x10000 ≤ v ∧ v ≤ 0x10ffff) :
    ∃ low high, leadOctet? (v / 262144 % 8 + 0xf0) =
        some (v / 262144, [(low, high), (0x80, 0xbf), (0x80, 0xbf)]) ∧
      low ≤ v / 4096 % 64 + 0x80 ∧ v / 4096 % 64 + 0x80 ≤ high := by
  by_cases hfirst : v / 262144 = 0
  · refine ⟨0x90, 0xbf, ?_, by omega, by omega⟩
    rw [leadOctet?, if_neg (by omega), if_neg (by omega), if_neg (by omega), if_neg (by omega),
      if_pos (by omega), hfirst]
  by_cases hlast : v / 262144 = 4
  · refine ⟨0x80, 0x8f, ?_, by omega, by omega⟩
    rw [leadOctet?, if_neg (by omega), if_neg (by omega), if_neg (by omega), if_neg (by omega),
      if_neg (by omega), if_neg (by omega), if_pos (by omega), hlast]
  · refine ⟨0x80, 0xbf, ?_, by omega, by omega⟩
    rw [leadOctet?, if_neg (by omega), if_neg (by omega), if_neg (by omega), if_neg (by omega),
      if_neg (by omega), if_pos (by omega)]
    congr 2
    omega

/-- The octets of a character beyond ASCII are a lead octet and those that are due after it. -/
theorem exists_leadOctet?_of_utf8EncodeChar
    (hc : 0x80 ≤ c.toNat) :
    ∃ b tail bits due, String.utf8EncodeChar c = b :: tail ∧ 0x80 ≤ b.toNat ∧
      leadOctet? b.toNat = some (bits, due) ∧ due ≠ [] ∧ AreDue due tail ∧
      joinBits bits tail = c.toNat := by
  have hvalid : c.toNat.isValidChar := c.valid
  have hlast : c.toNat < 0x110000 := by rcases hvalid with h | h <;> omega
  have hencode := utf8EncodeChar_ofNat hvalid
  rw [Char.ofNat_toNat] at hencode
  generalize c.toNat = v at hc hvalid hlast hencode ⊢
  have hoctet {n : Nat} (hn : n < 256) : (UInt8.ofNat n).toNat = n := by
    rw [UInt8.toNat_ofNat']
    omega
  split at hencode
  · omega
  split at hencode
  · have hb := hoctet (n := v / 64 % 32 + 0xc0) (by omega)
    have h₁ := hoctet (n := v % 64 + 0x80) (by omega)
    refine ⟨_, _, v / 64, [(0x80, 0xbf)], hencode, by omega, ?_, by simp, .cons ?_ .nil, ?_⟩
    · rw [hb, leadOctet?, if_pos (by omega)]
      congr 2
      omega
    · omega
    · simp only [joinBits, List.foldl]
      omega
  split at hencode
  · have hb := hoctet (n := v / 4096 % 16 + 0xe0) (by omega)
    have h₁ := hoctet (n := v / 64 % 64 + 0x80) (by omega)
    have h₂ := hoctet (n := v % 64 + 0x80) (by omega)
    obtain ⟨low, high, hlead, hlow, hhigh⟩ := exists_leadOctet?_three hvalid (by omega)
    refine ⟨_, _, _, _, hencode, by omega, by rw [hb, hlead], by simp,
      .cons (by omega) (.cons (by omega) .nil), ?_⟩
    simp only [joinBits, List.foldl]
    omega
  · have hb := hoctet (n := v / 262144 % 8 + 0xf0) (by omega)
    have h₁ := hoctet (n := v / 4096 % 64 + 0x80) (by omega)
    have h₂ := hoctet (n := v / 64 % 64 + 0x80) (by omega)
    have h₃ := hoctet (n := v % 64 + 0x80) (by omega)
    obtain ⟨low, high, hlead, hlow, hhigh⟩ := exists_leadOctet?_four (v := v) (by omega)
    refine ⟨_, _, _, _, hencode, by omega, by rw [hb, hlead], by simp,
      .cons (by omega) (.cons (by omega) (.cons (by omega) .nil)), ?_⟩
    simp only [joinBits, List.foldl]
    omega

/-! ## Reading octets -/

theorem decodeFrom_cons
    (position : Nat)
    (pending : Option PartialChar)
    (b : UInt8)
    (rest : List UInt8) :
    decodeFrom position pending (b :: rest) =
      pending.elim (startChar position b) (·.step b) >>= fun
        | .inl c => (decodeFrom (position + 1) none rest).map (c :: ·)
        | .inr p => decodeFrom (position + 1) (some p) rest := by
  have hmap (c : Char) : (do return c :: (← decodeFrom (position + 1) none rest)) =
      (decodeFrom (position + 1) none rest).map (c :: ·) := by
    cases decodeFrom (position + 1) none rest <;> rfl
  simp only [← hmap]
  cases pending <;> rfl

/-- The octets that are due finish a character. -/
theorem decodeFrom_append_of_areDue
    {p : PartialChar}
    (hdue : p.due ≠ [])
    (h : AreDue p.due tail)
    (position : Nat)
    (rest : List UInt8) :
    ∃ position', decodeFrom position (some p) (tail ++ rest) =
      (decodeFrom position' none rest).map (Char.ofNat (joinBits p.bits tail) :: ·) := by
  obtain ⟨start, lead, length, bits, due⟩ := p
  dsimp only at hdue h ⊢
  induction h generalizing position length bits with
  | nil => exact absurd rfl hdue
  | @cons range b due tail hb htail ih =>
    rw [List.cons_append, decodeFrom_cons]
    cases htail with
    | nil =>
      have hstep : PartialChar.step ⟨start, lead, length, bits, [range]⟩ b =
          .ok (.inl (Char.ofNat (64 * bits + b.toNat % 64))) := by
        simp [PartialChar.step, hb]
      exact ⟨position + 1, bind_of_eq_ok hstep⟩
    | @cons next b' due tail hnext htail =>
      have hstep : PartialChar.step ⟨start, lead, length, bits, range :: next :: due⟩ b =
          .ok (.inr ⟨start, lead, length + 1, 64 * bits + b.toNat % 64, next :: due⟩) := by
        simp [PartialChar.step, hb]
      obtain ⟨position', h⟩ := ih _ (length + 1) (64 * bits + b.toNat % 64) (by simp)
      exact ⟨position', (bind_of_eq_ok hstep).trans h⟩

/-- A character is finished by no octets but those that are due. -/
theorem exists_areDue_of_decodeFrom
    {p : PartialChar}
    (h : decodeFrom position (some p) octets = .ok cs) :
    ∃ tail rest, octets = tail ++ rest ∧ AreDue p.due tail := by
  induction octets generalizing position p with
  | nil => cases h
  | cons b octets ih =>
    rw [decodeFrom_cons] at h
    obtain ⟨next, hnext, h⟩ := bind_eq_ok_iff.mp h
    obtain ⟨start, lead, length, bits, due⟩ := p
    cases due with
    | nil => cases hnext
    | cons range due =>
      dsimp only [Option.elim_some, PartialChar.step] at hnext
      split at hnext
      · rename_i hb
        split at hnext <;> cases hnext
        · rename_i hlast
          obtain rfl := List.isEmpty_iff.mp hlast
          exact ⟨[b], octets, rfl, .cons hb .nil⟩
        · obtain ⟨tail, rest, rfl, htail⟩ := ih h
          exact ⟨b :: tail, rest, rfl, .cons hb htail⟩
      · cases hnext

/-- The octets of a character are read as the character. -/
theorem decodeFrom_utf8EncodeChar_append
    (position : Nat)
    (c : Char)
    (rest : List UInt8) :
    ∃ position', decodeFrom position none (String.utf8EncodeChar c ++ rest) =
      (decodeFrom position' none rest).map (c :: ·) := by
  by_cases hc : c.toNat < 0x80
  · have hstart : startChar position (asciiOctet c) = .ok (.inl c) := by
      rw [startChar, toNat_asciiOctet hc, if_pos hc, Char.ofNat_toNat]
    rw [utf8EncodeChar_of_ascii hc, List.singleton_append, decodeFrom_cons]
    exact ⟨position + 1, bind_of_eq_ok hstart⟩
  · obtain ⟨b, tail, bits, due, hoctets, hb, hlead, hdue, htail, hjoined⟩ :=
      exists_leadOctet?_of_utf8EncodeChar (Nat.le_of_not_lt hc)
    have hstart : startChar position b = .ok (.inr ⟨position, b, 1, bits, due⟩) := by
      rw [startChar, if_neg (Nat.not_lt.mpr hb), hlead]
    obtain ⟨position', h⟩ := decodeFrom_append_of_areDue (p := ⟨position, b, 1, bits, due⟩)
      hdue htail (position + 1) rest
    rw [hoctets, List.cons_append, decodeFrom_cons]
    refine ⟨position', (bind_of_eq_ok hstart).trans ?_⟩
    rwa [hjoined, Char.ofNat_toNat] at h

/-- What is read starts with the octets of a character. -/
theorem exists_utf8EncodeChar_of_decodeFrom
    (h : decodeFrom position none (b :: octets) = .ok cs) :
    ∃ c rest, b :: octets = String.utf8EncodeChar c ++ rest := by
  rw [decodeFrom_cons] at h
  obtain ⟨next, hnext, h⟩ := bind_eq_ok_iff.mp h
  dsimp only [Option.elim_none, startChar] at hnext
  split at hnext
  · rename_i hb
    refine ⟨Char.ofNat b.toNat, octets, ?_⟩
    rw [utf8EncodeChar_ofNat (.inl (by omega)), if_pos (by omega), ofNat_eq_of_eq_toNat rfl,
      List.singleton_append]
  · split at hnext <;> cases hnext
    rename_i bits due hlead
    obtain ⟨tail, rest, rfl, htail⟩ := exists_areDue_of_decodeFrom h
    refine ⟨Char.ofNat (joinBits bits tail), rest, ?_⟩
    rw [utf8EncodeChar_of_leadOctet? hlead htail, List.cons_append]

/-- Octets are read as characters exactly if they are the octets of these characters. -/
theorem decodeFrom_eq_ok_iff
    (position : Nat) :
    decodeFrom position none octets = .ok cs ↔ octets = cs.flatMap String.utf8EncodeChar := by
  constructor
  · -- By induction on the characters, each of which takes its octets off the row.
    intro h
    induction cs generalizing position octets with
    | nil =>
      cases octets with
      | nil => rfl
      | cons b octets =>
        obtain ⟨c, rest, hsplit⟩ := exists_utf8EncodeChar_of_decodeFrom h
        obtain ⟨position', hread⟩ := decodeFrom_utf8EncodeChar_append position c rest
        rw [hsplit, hread] at h
        obtain ⟨_, -, ⟨⟩⟩ := map_eq_ok_iff.mp h
    | cons c cs ih =>
      cases octets with
      | nil => cases h
      | cons b octets =>
        obtain ⟨c', rest, hsplit⟩ := exists_utf8EncodeChar_of_decodeFrom h
        obtain ⟨position', hread⟩ := decodeFrom_utf8EncodeChar_append position c' rest
        rw [hsplit, hread] at h
        obtain ⟨cs', hrest, hcons⟩ := map_eq_ok_iff.mp h
        obtain ⟨rfl, rfl⟩ := List.cons.inj hcons
        rw [hsplit, ih _ hrest, List.flatMap_cons]
  · rintro rfl
    induction cs generalizing position with
    | nil => rfl
    | cons c cs ih =>
      obtain ⟨position', hread⟩ :=
        decodeFrom_utf8EncodeChar_append position c (cs.flatMap String.utf8EncodeChar)
      rw [List.flatMap_cons, hread, ih]
      rfl

/-- Octets spell a text exactly if they are the octets of the text. -/
theorem decodeUtf8_eq_ok_iff
    {s : String} :
    decodeUtf8 octets = .ok s ↔ octets = encodeUtf8 s := by
  have hdecode : decodeUtf8 octets = (decodeFrom 0 none octets).map String.ofList := by
    rfl
  rw [encodeUtf8_eq_flatMap, ← decodeFrom_eq_ok_iff 0, hdecode, map_eq_ok_iff]
  constructor
  · rintro ⟨cs, hcs, rfl⟩
    rwa [String.toList_ofList]
  · exact fun h => ⟨_, h, String.ofList_toList⟩

/-- The octets of a text spell the text. -/
theorem decodeUtf8_encodeUtf8 (s : String) : decodeUtf8 (encodeUtf8 s) = .ok s :=
  decodeUtf8_eq_ok_iff.mpr rfl

/-! ## Lengths -/

/-- A text of characters is spelled with no more characters than it has octets. -/
theorem length_spelled_le (s : String) : (spelled s).length ≤ (encodeUtf8 s).length := by
  have hspell (c : Char) : (spell c.toNat).length ≤ (String.utf8EncodeChar c).length := by
    rw [String.length_utf8EncodeChar]
    by_cases hmark : c = halfMark
    · subst hmark
      decide
    · rw [spell_toNat hmark]
      exact c.utf8Size_pos
  rw [encodeUtf8_eq_flatMap, spelled, String.length_ofList]
  induction s.toList with
  | nil => exact Nat.le_refl 0
  | cons c cs ih =>
    have hc := hspell c
    rw [List.flatMap_cons, List.flatMap_cons, List.length_append, List.length_append]
    omega

theorem quotedOctet_ne_nil (quote : Char) (b : UInt8) : quotedOctet quote b ≠ [] := by
  unfold quotedOctet
  dsimp only
  repeat' split
  all_goals simp

/-- A row of octets has fewer octets than characters between quotes. -/
theorem length_lt_length_quotedOctets (bs : List UInt8) : bs.length < (quotedOctets bs).length := by
  unfold quotedOctets
  dsimp only
  generalize quoteFor _ = quote
  have hle : bs.length ≤ (bs.flatMap (quotedOctet quote)).length := by
    induction bs with
    | nil => exact Nat.le_refl 0
    | cons b bs ih =>
      have hb := List.length_pos_iff.mpr (quotedOctet_ne_nil quote b)
      rw [List.flatMap_cons, List.length_append, List.length_cons]
      omega
  rw [String.length_ofList]
  simp only [List.length_cons, List.length_append, List.length_nil]
  omega

end Text
end RollupAudit
