import RollupAudit.Json.Reader
import RollupAudit.Json.Writer
import RollupAudit.Proofs.Number.Binary64Text

/-!
# Numbers in JSON

The text of an integer is read as the integer, and that of a floating-point number as the number: the
latter always has a point or a power of ten, which is what the two are told apart by. A number ends
where a character follows that may not stand in a numeral.

**Results.**
* `readNumber_numeral`: a numeral with a point or a power is read as a floating-point number.
* `readScalar_int`, `readScalar_float`: integers and floating-point numbers of either sign read back.
-/

namespace RollupAudit
namespace Json

open Text

/-- A text that does not go on with a numeral. -/
def NoNumericHead (cs : List Char) : Prop := ∀ c ∈ cs.head?, isNumeric c = false

theorem noNumericHead_cons
    {c : Char} {cs : List Char}
    (h : isNumeric c = false) :
    NoNumericHead (c :: cs) := by
  intro c' hc'
  cases hc'
  exact h

/-- What does not go on with a numeral does not go on with a digit. -/
theorem NoNumericHead.noDigitHead
    {cs : List Char}
    (h : NoNumericHead cs) :
    NoDigitHead cs := by
  intro c hc
  have hnumeric := h c hc
  simp only [isNumeric, Bool.or_eq_false_iff] at hnumeric
  exact hnumeric.1.1.1.1.1

/-- A whole part without a needless leading zero is split off. -/
theorem splitWhole?_append
    {whole rest : List Char}
    (hne : whole ≠ [])
    (hds : ∀ d ∈ whole, d.isDigit = true)
    (hzero : whole.head? = some '0' → whole = ['0'])
    (hrest : NoDigitHead rest) :
    splitWhole? (whole ++ rest) = some (whole, rest) := by
  obtain ⟨d, ds, rfl⟩ := List.exists_cons_of_ne_nil hne
  by_cases hd : d = '0'
  · subst hd
    rw [hzero rfl]
    rfl
  · have hdigit : d.isDigit = true := hds d List.mem_cons_self
    have htake := takeWhile_digits hds hrest
    have hdrop := dropWhile_digits hds hrest
    unfold splitWhole?
    split
    · rename_i heq
      exact absurd (List.cons.inj heq).1 hd
    · rw [htake, hdrop]
      simp [hdigit]

/-- Places after a point are split off. -/
theorem splitFraction_append
    {places rest : List Char}
    (hds : ∀ d ∈ places, d.isDigit = true)
    (hdigit : NoDigitHead rest)
    (hpoint : rest.head? ≠ some '.') :
    splitFraction (pointed places ++ rest) = (pointed places, rest) := by
  unfold pointed
  split
  · rw [List.nil_append]
    unfold splitFraction
    split
    · exact absurd rfl hpoint
    · rfl
  · rename_i hne
    obtain ⟨d, ds, rfl⟩ := List.exists_cons_of_ne_nil hne
    have hd : d.isDigit = true := hds d List.mem_cons_self
    have htake := takeWhile_digits hds hdigit
    have hdrop := dropWhile_digits hds hdigit
    simp only [List.cons_append] at htake hdrop ⊢
    simp only [splitFraction, List.head?_cons, Option.elim, hd, if_true, htake, hdrop]

/-- The sign of a power is split off from its digits. -/
theorem splitSign_append
    {cs : List Char} {e : Int}
    (h : readInt? cs = some e) :
    ∃ sign ds, cs = sign ++ ds ∧ ds ≠ [] ∧ (∀ d ∈ ds, d.isDigit = true) ∧
      ∀ rest, splitSign (cs ++ rest) = (sign, ds ++ rest) := by
  obtain ⟨sign, ds, rfl, hsign, hne, hds⟩ := exists_of_readInt? h
  refine ⟨sign, ds, rfl, hne, hds, fun rest => ?_⟩
  rcases hsign with rfl | rfl | rfl
  · obtain ⟨d, ds, rfl⟩ := List.exists_cons_of_ne_nil hne
    have hd : d.isDigit = true := hds d List.mem_cons_self
    rw [List.nil_append, List.cons_append]
    unfold splitSign
    split
    · rename_i heq
      rw [(List.cons.inj heq).1] at hd
      cases hd
    · rename_i heq
      rw [(List.cons.inj heq).1] at hd
      cases hd
    · rfl
  · rfl
  · rfl

/-- A power of ten after its mark is split off. -/
theorem splitPower_mark
    {mark : Char} {cs rest : List Char} {e : Int}
    (hmark : mark = 'e' ∨ mark = 'E')
    (h : readInt? cs = some e)
    (hrest : NoDigitHead rest) :
    splitPower (mark :: cs ++ rest) = (mark :: cs, rest) := by
  obtain ⟨sign, ds, rfl, hne, hds, hsplit⟩ := splitSign_append h
  have htake := takeWhile_digits hds hrest
  have hdrop := dropWhile_digits hds hrest
  have hhead : ((ds ++ rest).head?.elim false Char.isDigit) = true := by
    obtain ⟨d, ds, rfl⟩ := List.exists_cons_of_ne_nil hne
    exact hds d List.mem_cons_self
  rw [List.cons_append]
  unfold splitPower
  simp only [if_pos hmark, hsplit, hhead, if_true, htake, hdrop]
  rfl

/-- A power of ten is split off. -/
theorem splitPower_append
    {power rest : List Char} {e : Int}
    (h : readPower? power = some e)
    (hrest : NoNumericHead rest) :
    splitPower (power ++ rest) = (power, rest) := by
  unfold readPower? at h
  split at h
  · rw [List.nil_append]
    cases rest with
    | nil => rfl
    | cons c rest =>
      have hc := hrest c rfl
      have hne : ¬ (c = 'e' ∨ c = 'E') := by
        rintro (rfl | rfl) <;> cases hc
      simp [splitPower, hne]
  · exact splitPower_mark (.inl rfl) h hrest.noDigitHead
  · exact splitPower_mark (.inr rfl) h hrest.noDigitHead
  · cases h

/-- After a fraction comes no further point. -/
theorem head?_power_ne_point
    {power rest : List Char} {e : Int}
    (h : readPower? power = some e)
    (hrest : NoNumericHead rest) :
    NoDigitHead (power ++ rest) ∧ (power ++ rest).head? ≠ some '.' := by
  obtain ⟨hdigit, hpoint⟩ := head?_of_readPower? h
  cases power with
  | nil =>
    refine ⟨hrest.noDigitHead, fun hhead => ?_⟩
    cases hrest '.' hhead
  | cons c power => exact ⟨fun c' hc' => hdigit c' hc', hpoint⟩

/-- A numeral with a point or a power is read as the floating-point number that it stands for. -/
theorem readNumber_numeral
    {n : Numeral}
    (hn : Binary64.IsPlain n)
    (negative : Bool)
    {rest : List Char}
    (hrest : NoNumericHead rest) :
    readNumber negative (n.text ++ rest) =
      .ok (.float (Binary64.ofScaled negative n.coefficient n.exponent), rest) := by
  obtain ⟨hdigit, hpoint⟩ := head?_power_ne_point n.readPower?_power hrest
  have hfollows : NoDigitHead (pointed n.places ++ (n.power ++ rest)) := by
    unfold pointed
    split
    · exact hdigit
    · exact noDigitHead_cons rfl
  have hwhole := splitWhole?_append n.whole_ne_nil n.isDigit_whole hn.whole_eq_of_zero hfollows
  have hfraction := splitFraction_append n.isDigit_places hdigit hpoint
  have hpower := splitPower_append n.readPower?_power hrest
  have hkind : ¬ (((pointed n.places).isEmpty = true) ∧ n.power.isEmpty = true) := by
    rintro ⟨hplaces, hpow⟩
    rcases hn.isFraction with hne | hne
    · simp [pointed, hne] at hplaces
    · simp [hne] at hpow
  have htext : n.whole ++ pointed n.places ++ n.power = n.text := List.append_assoc _ _ _
  unfold readNumber
  rw [Numeral.text, List.append_assoc, List.append_assoc, hwhole]
  simp only [hfraction, hpower, if_neg hkind, htext, n.readScientific?_text]
  rfl

/-- A row of digits that is not too long is read as an integer. -/
theorem readNumber_toDigits
    {n : Nat}
    (hn : n < 10 ^ maxDigits)
    (negative : Bool)
    {rest : List Char}
    (hrest : NoNumericHead rest) :
    readNumber negative (Nat.toDigits 10 n ++ rest) =
      .ok (.int (if negative then -Int.ofNat n else Int.ofNat n), rest) := by
  have hzero : (Nat.toDigits 10 n).head? = some '0' → Nat.toDigits 10 n = ['0'] := by
    intro hhead
    by_cases hpos : 0 < n
    · exact absurd hhead (head?_toDigits_ne_zero hpos)
    · obtain rfl : n = 0 := by omega
      rfl
  have hwhole := splitWhole?_append Nat.toDigits_ne_nil (fun _ => isDigit_of_mem_toDigits) hzero
    hrest.noDigitHead
  have hpoint : rest.head? ≠ some '.' := by
    intro hhead
    cases hrest '.' hhead
  have hfraction : splitFraction (pointed [] ++ rest) = (pointed [], rest) :=
    splitFraction_append (by simp) hrest.noDigitHead hpoint
  have hpower : splitPower ([] ++ rest) = ([], rest) := splitPower_append rfl hrest
  have hlength : ¬ maxDigits < (Nat.toDigits 10 n).length := by
    have := (Nat.length_toDigits_le_iff (n := n) (k := maxDigits) (by decide) (by decide)).mpr hn
    omega
  simp only [pointed, if_true, List.nil_append] at hfraction hpower
  unfold readNumber
  rw [hwhole]
  simp only [hfraction, hpower, List.isEmpty_nil, and_self, if_true, if_neg hlength,
    digitsValue_toDigits]

/-- What starts with a digit, after a minus or not, is none of the words that are values. -/
theorem words_of_isDigit
    {c : Char}
    (hc : c.isDigit = true)
    (cs : List Char) :
    (words.findSome? fun w => (after? w.1.toList (c :: cs)).map fun rest => (w.2, rest)) = none ∧
      (words.findSome? fun w => (after? w.1.toList ('-' :: c :: cs)).map fun rest => (w.2, rest)) =
        none := by
  have hne (w : Char) (hw : w.isDigit = false) : w ≠ c := by
    rintro rfl
    rw [hc] at hw
    cases hw
  have hn := hne 'n' rfl
  have ht := hne 't' rfl
  have hf := hne 'f' rfl
  have hN := hne 'N' rfl
  have hI := hne 'I' rfl
  have hminus := hne '-' rfl
  simp [words, after?, hn, ht, hf, hN, hI, hminus]

/-- What starts with a digit, after a minus or not, is read as a number. -/
theorem readScalar_of_isDigit
    {c : Char}
    (hc : c.isDigit = true)
    (negative : Bool)
    (cs : List Char) :
    readScalar (if negative then '-' :: c :: cs else c :: cs) = readNumber negative (c :: cs) := by
  obtain ⟨hplain, hminus⟩ := words_of_isDigit hc cs
  cases negative with
  | false =>
    simp only [Bool.false_eq_true, if_false]
    unfold readScalar
    simp only [hplain]
    split
    · rename_i heq
      rw [(List.cons.inj heq).1] at hc
      cases hc
    · rfl
  | true =>
    simp only [if_true]
    unfold readScalar
    simp only [hminus]

/-- An integer that is not too long reads back. -/
theorem readScalar_int
    {n : Int}
    (hn : Text.isWritable n = true)
    {rest : List Char}
    (hrest : NoNumericHead rest) :
    readScalar ((intText n).toList ++ rest) = .ok (.int n, rest) := by
  have hread (m : Nat) (hm : m < 10 ^ maxDigits) (negative : Bool) :
      readScalar (if negative then '-' :: (Nat.toDigits 10 m ++ rest) else Nat.toDigits 10 m ++ rest) =
        .ok (.int (if negative then -Int.ofNat m else Int.ofNat m), rest) := by
    have hnumber := readNumber_toDigits hm negative hrest
    have hds : ∀ d ∈ Nat.toDigits 10 m, d.isDigit = true := fun _ => isDigit_of_mem_toDigits
    obtain ⟨d, ds, hcons⟩ := List.exists_cons_of_ne_nil (@Nat.toDigits_ne_nil m 10)
    rw [hcons] at hnumber hds ⊢
    rw [← hnumber]
    exact readScalar_of_isDigit (hds d List.mem_cons_self) negative (ds ++ rest)
  cases n with
  | ofNat n =>
    have hlt : n < 10 ^ maxDigits := of_decide_eq_true hn
    simp only [intText, String.toList_ofList]
    exact hread n hlt false
  | negSucc n =>
    have hlt : n + 1 < 10 ^ maxDigits := of_decide_eq_true hn
    simp only [intText, String.toList_ofList]
    exact hread (n + 1) hlt true

theorem numberText_finite
    {negative : Bool} {rank : Fin finiteRanks} {n : Numeral}
    (h : n.text = Binary64.magnitudeText rank) :
    numberText (.finite negative rank) = if negative then '-' :: n.text else n.text := by
  rw [h]
  exact String.toList_ofList

/-- A floating-point number reads back, whether it is finite or not. -/
theorem readScalar_float
    (x : Binary64)
    {rest : List Char}
    (hrest : NoNumericHead rest) :
    readScalar (numberText x ++ rest) = .ok (.float x, rest) := by
  cases x with
  | nan => rfl
  | infinite negative => cases negative <;> rfl
  | finite negative rank =>
    obtain ⟨n, htext, hplain, hvalue⟩ := Binary64.exists_numeral rank
    have hnumber := readNumber_numeral hplain negative hrest
    obtain ⟨c, cs, hcons, hc⟩ := n.exists_cons
    rw [hvalue negative, hcons] at hnumber
    rw [numberText_finite htext, hcons, ← hnumber]
    cases negative with
    | false => exact readScalar_of_isDigit hc false (cs ++ rest)
    | true => exact readScalar_of_isDigit hc true (cs ++ rest)

end Json
end RollupAudit
