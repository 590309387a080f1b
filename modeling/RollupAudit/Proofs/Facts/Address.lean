import RollupAudit.Facts.Address
import RollupAudit.Proofs.Text.Digits
import RollupAudit.Proofs.Text.LowerCase

/-!
# Texts of addresses

An address is the one that its text denotes: the 40 hexadecimal digits of an account are read as its
number, and the text has no outer blanks to remove.

**Results.**
* `Address.hexNumber?_paddedDigits`: hexadecimal digits are read as the number that they are
  written for.
* `Address.ofText?_text`: the text of an address denotes the address.
* `Address.isAccountText_text_iff`: the text of an account is the one with its number.
* `Address.ofText?_eq_of_spelling_eq`: outer blanks and the case of the digits do not matter.
* `Address.isUnsetText_text`: a text names no account exactly if its address is unset.
-/

namespace RollupAudit
namespace Address

open Text

theorem hexDigit?_digitChar
    {d : Nat}
    (h : d < 16) :
    hexDigit? (Nat.digitChar d) = some d ∧ isBlank (Nat.digitChar d) = false := by
  have hall : ∀ d < 16, hexDigit? (Nat.digitChar d) = some d ∧ isBlank (Nat.digitChar d) = false := by
    decide
  exact hall d h

/-- A digit after others adds to sixteen times their number. -/
theorem hexNumber?_append_digit
    (cs : List Char)
    {d : Nat}
    (h : d < 16)
    (before : Nat) :
    hexNumber? before (cs ++ [Nat.digitChar d]) =
      (hexNumber? before cs).map fun n => 16 * n + d := by
  induction cs generalizing before with
  | nil => simp [hexNumber?, (hexDigit?_digitChar h).1]
  | cons c cs ih =>
    cases hc : hexDigit? c with
    | none => simp [hexNumber?, hc]
    | some e => simp [hexNumber?, hc, ih]

/-- Hexadecimal digits of a width are read as the number that they are written for. -/
theorem hexNumber?_paddedDigits
    {width n : Nat}
    (h : n < 16 ^ (width + 1)) :
    hexNumber? 0 (paddedDigits 16 (width + 1) n) = some n := by
  induction width generalizing n with
  | zero =>
    have hdigit : n < 16 := by simpa using h
    rw [paddedDigits_one hdigit]
    simp [hexNumber?, (hexDigit?_digitChar hdigit).1]
  | succ width ih =>
    have hfront : n / 16 < 16 ^ (width + 1) := by
      rw [Nat.pow_succ] at h
      omega
    have hlast : n % 16 < 16 := Nat.mod_lt n (by decide)
    rw [paddedDigits_succ (by decide) (by omega), hexNumber?_append_digit _ hlast, ih hfront,
      Option.map_some, Nat.div_add_mod]

/-- The digits of an account stand for numbers below sixteen. -/
theorem exists_digit_of_mem_paddedDigits
    {width n : Nat} {c : Char}
    (h : c ∈ paddedDigits 16 width n) :
    ∃ d < 16, c = Nat.digitChar d := by
  rcases List.mem_append.mp h with hzero | hdigit
  · exact ⟨0, by decide, List.eq_of_mem_replicate hzero⟩
  · exact exists_digit_of_mem_toDigits (by decide) hdigit

/-- The text of an account has no outer blanks. -/
theorem isTrimmed_account
    {digits : List Char}
    (h : ∀ c ∈ digits, isBlank c = false) :
    IsTrimmed isBlank ('0' :: 'x' :: digits) := by
  refine isTrimmed_of_forall fun c hc => ?_
  rcases List.mem_cons.mp hc with rfl | hc
  · decide
  · rcases List.mem_cons.mp hc with rfl | hc
    · decide
    · exact h c hc

/-- The text of an address denotes the address. -/
theorem ofText?_text (a : Address) : ofText? a.text = some a := by
  cases a with
  | blank => rfl
  | account n =>
    have hdigits : ∀ c ∈ paddedDigits 16 40 n.val, isBlank c = false := by
      intro c hc
      obtain ⟨d, hd, rfl⟩ := exists_digit_of_mem_paddedDigits hc
      exact (hexDigit?_digitChar hd).2
    have hlength : (paddedDigits 16 40 n.val).length = 40 :=
      length_paddedDigits (by decide) (by decide) n.isLt
    have hnumber : hexNumber? 0 (paddedDigits 16 40 n.val) = some n.val :=
      hexNumber?_paddedDigits n.isLt
    rw [ofText?, text, String.toList_ofList, trimBy_eq_self (isTrimmed_account hdigits), ofTrimmed?,
      if_pos hlength, hnumber, Option.bind_some, ofNumber?, dif_pos n.isLt]

theorem text_injective
    {a b : Address}
    (h : a.text = b.text) :
    a = b := by
  have hread := ofText?_text a
  rw [h, ofText?_text b] at hread
  exact (Option.some.inj hread).symm

/-- The digits of an account: the decimal digits and the small letters up to f. -/
def accountDigits : List Char := "0123456789abcdef".toList

/-- That a text writes the number of an account with 40 digits, the letters among them small. -/
def IsAccountText (s : String) (n : Fin accountCount) : Prop :=
  ∃ digits, s = String.ofList ('0' :: 'x' :: digits) ∧ digits.length = 40 ∧
    (∀ c ∈ digits, c ∈ accountDigits) ∧ hexNumber? 0 digits = some n.val

theorem isAccountText_text
    (n : Fin accountCount) :
    IsAccountText (account n).text n := by
  have hdigit : ∀ d < 16, Nat.digitChar d ∈ accountDigits := by decide
  refine ⟨_, rfl, length_paddedDigits (by decide) (by decide) n.isLt, fun c hc => ?_,
    hexNumber?_paddedDigits n.isLt⟩
  obtain ⟨d, hd, rfl⟩ := exists_digit_of_mem_paddedDigits hc
  exact hdigit d hd

/-- The text of an address is that of an account with a number exactly if it is that account. -/
theorem isAccountText_text_iff
    {a : Address} {n : Fin accountCount} :
    IsAccountText a.text n ↔ a = account n := by
  constructor
  · rintro ⟨digits, htext, -, -, hnumber⟩
    cases a with
    | blank => exact absurd (congrArg String.toList htext) (by simp [text])
    | account m =>
      have hdigits := congrArg String.toList htext
      simp only [text, String.toList_ofList, List.cons.injEq, true_and] at hdigits
      rw [← hdigits, hexNumber?_paddedDigits m.isLt] at hnumber
      rw [Fin.ext (Option.some.inj hnumber)]
  · rintro rfl
    exact isAccountText_text n

/-- The text of an address is in lower case. -/
theorem lower_text (a : Address) : lower a.text = a.text := by
  cases a with
  | blank => rfl
  | account n =>
    have hdigit : ∀ d < 16, isLower (Nat.digitChar d) = true := by decide
    have hall : ∀ c ∈ '0' :: 'x' :: paddedDigits 16 40 n.val, isLower c = true := by
      intro c hc
      rcases List.mem_cons.mp hc with rfl | hc
      · decide
      · rcases List.mem_cons.mp hc with rfl | hc
        · decide
        · obtain ⟨d, hd, rfl⟩ := exists_digit_of_mem_paddedDigits hc
          exact hdigit d hd
    rw [lower, text, String.toList_ofList, lowerFrom_of_isLower _ _ hall]

/-- The account zero. -/
def zero : Address := account ⟨0, by decide⟩

theorem text_eq_empty_iff
    {a : Address} :
    a.text = "" ↔ a = blank :=
  ⟨fun h => text_injective (b := blank) h, fun h => by rw [h]; rfl⟩

theorem text_eq_zeroText_iff
    {a : Address} :
    a.text = zeroText ↔ a = zero :=
  ⟨fun h => text_injective (b := zero) h, fun h => by rw [h]; rfl⟩

/-- A text names no account exactly if its address is blank or the account zero. -/
theorem isUnsetText_text
    (a : Address) :
    isUnsetText (some a.text) = true ↔ a = blank ∨ a = zero := by
  rw [isUnsetText, Bool.or_eq_true, String.isEmpty_iff, text_eq_empty_iff, lower_text, beq_iff_eq,
    text_eq_zeroText_iff]

/-! ## Spellings -/

/-- A hexadecimal digit with a small letter; any other character as it is. -/
def smallDigit (c : Char) : Char := if 'A' ≤ c ∧ c ≤ 'F' then c.toLower else c

/-- The text of an address without outer blanks, its digits with small letters. -/
def spelling (s : String) : List Char := (trimBy isBlank s.toList).map smallDigit

theorem smallDigit_spec
    (c : Char) :
    hexDigit? (smallDigit c) = hexDigit? c ∧ (smallDigit c = '0' ↔ c = '0') ∧
      (smallDigit c = 'x' ↔ c = 'x') := by
  unfold smallDigit
  split
  · rename_i h
    have hall : ∀ n < 71, 65 ≤ n →
        hexDigit? (Char.ofNat n).toLower = hexDigit? (Char.ofNat n) ∧
          (Char.ofNat n).toLower ≠ '0' ∧ Char.ofNat n ≠ '0' ∧
            (Char.ofNat n).toLower ≠ 'x' ∧ Char.ofNat n ≠ 'x' := by
      decide
    have hc := hall c.toNat (Nat.lt_succ_of_le h.2) h.1
    rw [Char.ofNat_toNat] at hc
    obtain ⟨hdigit, hzero, hzero', hx, hx'⟩ := hc
    exact ⟨hdigit, iff_of_false hzero hzero', iff_of_false hx hx'⟩
  · exact ⟨rfl, .rfl, .rfl⟩

theorem hexNumber?_smallDigit
    (before : Nat)
    (cs : List Char) :
    hexNumber? before (cs.map smallDigit) = hexNumber? before cs := by
  induction cs generalizing before with
  | nil => rfl
  | cons c cs ih =>
    rw [List.map_cons, hexNumber?, hexNumber?, (smallDigit_spec c).1]
    simp only [ih]

theorem ofTrimmed?_cons_cons
    (c d : Char)
    (digits : List Char) :
    ofTrimmed? (c :: d :: digits) =
      if c = '0' ∧ d = 'x' then
        if digits.length = 40 then (hexNumber? 0 digits).bind ofNumber? else none
      else none := by
  split
  · rename_i h
    obtain ⟨rfl, rfl⟩ := h
    rfl
  · rename_i h
    unfold ofTrimmed?
    split
    · rename_i heq
      cases heq
    · rename_i heq
      cases heq
      exact absurd ⟨rfl, rfl⟩ h
    · rfl

/-- The case of the digits does not matter to the address. -/
theorem ofTrimmed?_smallDigit
    (cs : List Char) :
    ofTrimmed? (cs.map smallDigit) = ofTrimmed? cs := by
  cases cs with
  | nil => rfl
  | cons c cs =>
    cases cs with
    | nil => simp [ofTrimmed?]
    | cons d digits =>
      simp only [List.map_cons, ofTrimmed?_cons_cons, (smallDigit_spec c).2.1, (smallDigit_spec d).2.2,
        List.length_map, hexNumber?_smallDigit]

/-- Texts with one spelling denote one address. -/
theorem ofText?_eq_of_spelling_eq
    {s t : String}
    (h : spelling s = spelling t) :
    ofText? s = ofText? t := by
  rw [ofText?, ofText?, ← ofTrimmed?_smallDigit, ← ofTrimmed?_smallDigit (trimBy isBlank t.toList)]
  exact congrArg ofTrimmed? h

end Address
end RollupAudit
