import RollupAudit.Proofs.Facts.Address
import RollupAudit.Proofs.Facts.Normal
import RollupAudit.Proofs.Time.InstantText
import RollupAudit.Proofs.Value.Rearranged

/-!
# Writings of the parts of a snapshot

The parts of a snapshot can be written in several ways: a text with outer blanks or in other letters, an
instant with the offset of any clock. A reading respects such a likeness of writings if it accepts the
one for a part exactly if it accepts the other for it.

**Results.**
* `Reading.respects_address`, `Reading.respects_addresses`: the spellings of addresses.
* `Reading.respects_chainId`, `Reading.respects_stripped`, `Reading.respects_policyText`: outer blanks,
  and the case of a policy in words.
* `Reading.respects_instant`: the offsets of clocks.
* `Reading.likeInstant_texts`: the texts of one instant by clocks with different offsets are alike.
-/

namespace RollupAudit

open Text Fields Value

section

variable {α β γ : Type}

/-- Items that stand in the same relations are related to the same lists. -/
theorem forall₂_iff_of_forall₂
    {R : α → β → Prop} {P : α → γ → Prop} {Q : β → γ → Prop} {as : List α} {bs : List β}
    (h : List.Forall₂ R as bs)
    (hR : ∀ {a b}, R a b → ∀ c, P a c ↔ Q b c)
    (cs : List γ) :
    List.Forall₂ P as cs ↔ List.Forall₂ Q bs cs := by
  induction h generalizing cs with
  | nil => rw [List.forall₂_nil_left_iff, List.forall₂_nil_left_iff]
  | cons hab _ ih => simp only [List.forall₂_cons_left_iff, hR hab, ih]

theorem map_eq_map_of_forall₂
    {R : α → β → Prop} {f : α → γ} {g : β → γ} {as : List α} {bs : List β}
    (h : List.Forall₂ R as bs)
    (hR : ∀ {a b}, R a b → g b = f a) :
    bs.map g = as.map f := by
  induction h with
  | nil => rfl
  | cons hab _ ih => rw [List.map_cons, List.map_cons, hR hab, ih]

/-- Items that are related through others one by one are related through a list of them. -/
theorem forall₂_exists_iff
    {P : α → β → Prop} {Q : β → γ → Prop} {as : List α} {cs : List γ} :
    List.Forall₂ (fun a c => ∃ b, P a b ∧ Q b c) as cs ↔
      ∃ bs, List.Forall₂ P as bs ∧ List.Forall₂ Q bs cs := by
  constructor
  · intro h
    induction h with
    | nil => exact ⟨[], .nil, .nil⟩
    | cons hac _ ih =>
      obtain ⟨b, hab, hbc⟩ := hac
      obtain ⟨bs, habs, hbcs⟩ := ih
      exact ⟨b :: bs, .cons hab habs, .cons hbc hbcs⟩
  · rintro ⟨bs, habs, hbcs⟩
    induction habs generalizing cs with
    | nil =>
      cases hbcs
      exact .nil
    | cons hab _ ih =>
      obtain ⟨c, cs, hbc, hrest, rfl⟩ := List.forall₂_cons_left_iff.mp hbcs
      exact .cons ⟨_, hab, hbc⟩ (ih hrest)

end

/-- A likeness of the values of a document. -/
abbrev Likeness := Value → Value → Prop

namespace Reading

variable {α : Type} {R : Likeness} {read : Value → Check α} {v w : Value}

/-- That a reading accepts values that are alike for the same. -/
def Respects (R : Likeness) (read : Value → Check α) : Prop :=
  ∀ ⦃v w⦄, R v w → ∀ a, read v = .accepted a ↔ read w = .accepted a

/-- That nothing but null is like null. -/
def KeepsNull (R : Likeness) : Prop := ∀ ⦃v w⦄, R v w → (v = .null ↔ w = .null)

theorem Respects.nullable
    (hread : Respects R read)
    (hnull : KeepsNull R) :
    Respects R (Fields.nullable read) := by
  intro v w h o
  rw [nullable_eq_accepted_iff, nullable_eq_accepted_iff]
  simp only [ne_eq, hnull h, hread h]

/-! ## Values in another order -/

/-- Where no value that holds others is accepted, the order within them does not matter. -/
theorem respects_rearranged
    (hread : ∀ {v}, v.isNested = true → ∀ a, read v ≠ .accepted a) :
    Respects Rearranged read := by
  intro v w h a
  rcases h.eq_or_isNested with rfl | ⟨hv, hw⟩
  · rfl
  · exact iff_of_false (hread hv a) (hread hw a)

theorem keepsNull_rearranged : KeepsNull Rearranged := fun _ _ h => h.null_iff

theorem readText_of_isNested
    (h : v.isNested = true) :
    Scalar.readText v = .error .stringType := by
  cases v <;> first | rfl | cases h

theorem readFlag_of_isNested
    (h : v.isNested = true) :
    Scalar.readFlag v = .error .boolType := by
  cases v <;> first | rfl | cases h

theorem readInt_of_isNested
    (h : v.isNested = true) :
    Scalar.readInt v = .error .intType := by
  cases v <;> first | rfl | cases h

theorem readTimestamp_of_isNested
    (h : v.isNested = true) :
    Scalar.readTimestamp v = .error (.timestamp .type) := by
  cases v with
  | list _ | tuple _ | set _ | mapping _ => rfl
  | _ => cases h

theorem respects_text : Respects Rearranged (scalar Scalar.readText : Value → Check String) :=
  respects_rearranged fun h a => by simp [scalar_eq_accepted_iff, readText_of_isNested h]

theorem respects_flag : Respects Rearranged (scalar Scalar.readFlag : Value → Check Bool) :=
  respects_rearranged fun h a => by simp [scalar_eq_accepted_iff, readFlag_of_isNested h]

theorem respects_seconds : Respects Rearranged (scalar Scalar.readNat : Value → Check Nat) :=
  respects_rearranged fun h a => by
    simp [scalar_eq_accepted_iff, Scalar.readNat, readInt_of_isNested h, bind, Except.bind]

theorem respects_version : Respects Rearranged version :=
  respects_rearranged fun h a => by
    simp [version, scalar_eq_accepted_iff, Scalar.readIntBetween, Scalar.readIntFrom,
      readInt_of_isNested h, bind, Except.bind]

theorem readSignPart?_rearranged
    (h : Rearranged v w) :
    Scalar.readSignPart? v = Scalar.readSignPart? w := by
  rcases h.eq_or_isNested with rfl | ⟨hv, hw⟩
  · rfl
  · have hnone {u : Value} (hu : u.isNested = true) : Scalar.readSignPart? u = none := by
      cases u <;> first | rfl | cases hu
    rw [hnone hv, hnone hw]

/-- The digits of a number are the same in any order of what they hold: a digit holds nothing. -/
theorem readCoefficient?_rearranged
    {xs ys : List Value}
    (h : List.Forall₂ Rearranged xs ys) :
    Scalar.readCoefficient? xs = Scalar.readCoefficient? ys := by
  unfold Scalar.readCoefficient?
  generalize some 0 = start
  induction h generalizing start with
  | nil => rfl
  | @cons x y xs ys hxy _ ih =>
    rw [List.foldl_cons, List.foldl_cons]
    rcases hxy.eq_or_isNested with rfl | ⟨hx, hy⟩
    · exact ih _
    · cases x with
      | list _ | tuple _ | set _ | mapping _ =>
        cases y with
        | list _ | tuple _ | set _ | mapping _ => exact ih _
        | _ => cases hy
      | _ => cases hx

theorem readDecimalParts_rearranged
    {sign digits exponent sign' digits' exponent' : Value}
    (hsign : Rearranged sign sign')
    (hdigits : Rearranged digits digits')
    (hexponent : Rearranged exponent exponent') :
    Scalar.readDecimalParts sign digits exponent = Scalar.readDecimalParts sign' digits' exponent' := by
  have hcoefficient : digits.items?.bind Scalar.readCoefficient? =
      digits'.items?.bind Scalar.readCoefficient? := by
    have hitems := hdigits.rel_items?
    generalize digits.items? = xs at hitems ⊢
    generalize digits'.items? = ys at hitems ⊢
    cases hitems with
    | none => rfl
    | some hitems => exact readCoefficient?_rearranged hitems
  unfold Scalar.readDecimalParts
  rw [readSignPart?_rearranged hsign, hcoefficient]
  rcases hexponent.eq_or_isNested with rfl | ⟨he, he'⟩
  · rfl
  · cases exponent with
    | list _ | tuple _ | set _ | mapping _ =>
      cases exponent' with
      | list _ | tuple _ | set _ | mapping _ => rfl
      | _ => cases he'
    | _ => cases he

/-- Among the values that hold others a number may be given by its parts, which are in order. -/
theorem readExtended_rearranged
    (h : Rearranged v w) :
    Scalar.readExtended v = Scalar.readExtended w := by
  cases h with
  | refl => rfl
  | list h => rfl
  | set h => rfl
  | mapping h hperm => rfl
  | tuple h =>
    match h with
    | .nil => rfl
    | .cons _ .nil => rfl
    | .cons _ (.cons _ .nil) => rfl
    | .cons hsign (.cons hdigits (.cons hexponent .nil)) =>
      exact readDecimalParts_rearranged hsign hdigits hexponent
    | .cons _ (.cons _ (.cons _ (.cons _ _))) => rfl

theorem respects_amount : Respects Rearranged (scalar Scalar.readAmount : Value → Check Decimal) := by
  intro v w h a
  have hread : Scalar.readAmount v = Scalar.readAmount w := by
    rw [Scalar.readAmount, Scalar.readAmount, readExtended_rearranged h]
  rw [scalar, scalar, hread]

theorem respects_parameter :
    Respects Rearranged (Parameter.ofValue : Value → Check Parameter) := by
  refine respects_rearranged fun {v} h a ha => ?_
  cases v with
  | list _ | tuple _ | set _ | mapping _ => cases ha
  | _ => cases h

/-! ## Texts in other writings -/

/-- That values are texts that have one form, or one value but for the order within it. -/
inductive LikeText (form : String → List Char) : Likeness
  | order {v w : Value} (h : Rearranged v w) : LikeText form v w
  | texts {v w : Value} {s t : String} (hv : Scalar.readText v = .ok s)
      (hw : Scalar.readText w = .ok t) (h : form s = form t) : LikeText form v w

theorem ne_null_of_readText
    {s : String}
    (h : Scalar.readText v = .ok s) :
    v ≠ .null := by
  rintro rfl
  cases h

theorem keepsNull_likeText
    (form : String → List Char) :
    KeepsNull (LikeText form) := by
  intro v w h
  cases h with
  | order h => exact h.null_iff
  | texts hv hw _ => exact iff_of_false (ne_null_of_readText hv) (ne_null_of_readText hw)

/-- A reading of texts respects the texts of one form if it finds the same in them. -/
theorem respects_likeText
    {form : String → List Char} {Finds : String → α → Prop}
    (hread : ∀ v a, read v = .accepted a ↔ ∃ s, Scalar.readText v = .ok s ∧ Finds s a)
    (hform : ∀ {s t}, form s = form t → ∀ a, Finds s a ↔ Finds t a) :
    Respects (LikeText form) read := by
  intro v w h a
  cases h with
  | order h =>
    refine respects_rearranged (fun {v} hv a ha => ?_) h a
    obtain ⟨s, hs, -⟩ := (hread v a).mp ha
    rw [readText_of_isNested hv] at hs
    cases hs
  | texts hv hw h =>
    rw [hread, hread, hv, hw]
    simp only [Except.ok.injEq, exists_eq_left']
    exact hform h a

theorem toAddress_eq_accepted_iff
    {s : String} {a : Address} :
    toAddress s = .accepted a ↔ Address.ofText? s = some a := by
  unfold toAddress
  cases Address.ofText? s <;> simp [Checked.reject]

theorem address_eq_accepted_iff
    {a : Address} :
    address v = .accepted a ↔ ∃ s, Scalar.readText v = .ok s ∧ Address.ofText? s = some a := by
  simp only [address, Checked.andThen_eq_accepted_iff, scalar_eq_accepted_iff,
    toAddress_eq_accepted_iff]

/-- Addresses are read without outer blanks, and their digits in letters of either case. -/
theorem respects_address : Respects (LikeText Address.spelling) address :=
  respects_likeText (fun _ _ => address_eq_accepted_iff) fun h a => by
    rw [Address.ofText?_eq_of_spelling_eq h]

/-- A text without its outer blanks. -/
def trimmed (s : String) : List Char := trimBy isBlank s.toList

/-- A text without its outer blanks, its letters of ASCII in small ones. -/
def lowered (s : String) : List Char := asciiLower (trimmed s)

theorem strip_eq_of_trimmed_eq
    {s t : String}
    (h : trimmed s = trimmed t) :
    strip s = strip t :=
  congrArg String.ofList h

theorem stripped_eq_accepted_iff
    {a : String} :
    stripped v = .accepted a ↔ ∃ s, Scalar.readText v = .ok s ∧ strip s = a := by
  simp only [stripped, Checked.map_eq_accepted_iff, scalar_eq_accepted_iff]

theorem chainId_eq_accepted_iff
    {a : String} :
    chainId v = .accepted a ↔ ∃ s, Scalar.readText v = .ok s ∧ strip s = a ∧ a ≠ "" := by
  have hcheck (s : String) : (if s.isEmpty then .reject (.refused "chain_id must not be empty")
      else .accepted s : Check String) = .accepted a ↔ s = a ∧ a ≠ "" := by
    split
    · rename_i hempty
      rw [String.isEmpty_iff] at hempty
      subst hempty
      simp only [Checked.reject, reduceCtorEq, false_iff, not_and, not_not]
      exact Eq.symm
    · rename_i hempty
      rw [String.isEmpty_iff] at hempty
      rw [Checked.accepted.injEq, iff_self_and]
      rintro rfl
      exact hempty
  simp only [chainId, Checked.andThen_eq_accepted_iff, stripped_eq_accepted_iff, hcheck]
  constructor
  · rintro ⟨_, ⟨s, hs, rfl⟩, hsame, hne⟩
    exact ⟨s, hs, hsame, hne⟩
  · rintro ⟨s, hs, hsame, hne⟩
    exact ⟨_, ⟨s, hs, rfl⟩, hsame, hne⟩

theorem policyText_eq_accepted_iff
    {a : String} :
    policyText v = .accepted a ↔ ∃ s, Scalar.readText v = .ok s ∧ lower (strip s) = a := by
  simp only [policyText, Checked.map_eq_accepted_iff, scalar_eq_accepted_iff]

theorem respects_stripped : Respects (LikeText trimmed) stripped :=
  respects_likeText (fun _ _ => stripped_eq_accepted_iff) fun h a => by
    rw [strip_eq_of_trimmed_eq h]

theorem respects_chainId : Respects (LikeText trimmed) chainId :=
  respects_likeText (fun _ _ => chainId_eq_accepted_iff) fun h a => by
    rw [strip_eq_of_trimmed_eq h]

/-- A policy in words is read without outer blanks, and in letters of either case. -/
theorem respects_policyText : Respects (LikeText lowered) policyText := by
  refine respects_likeText (fun _ _ => policyText_eq_accepted_iff) fun {s t} h a => ?_
  have hlower : lower (strip s) = lower (strip t) := by
    refine lower_eq_of_asciiLower_eq ?_
    rw [strip, strip, String.toList_ofList, String.toList_ofList]
    exact h
  rw [hlower]

/-! ## Instants by other clocks -/

/-- That values are clock readings of one instant, texts that both show no date of the calendar, or one
value but for the order within it. -/
inductive LikeInstant : Likeness
  | order {v w : Value} (h : Rearranged v w) : LikeInstant v w
  | clocks {v w : Value} {t u : Timestamp} (hv : Scalar.readTimestamp v = .ok t)
      (hw : Scalar.readTimestamp w = .ok u) (h : t.utcMicros = u.utcMicros) : LikeInstant v w
  | dateless {s s' : String} (hs : ∀ t, Scalar.readTimestamp (.text s) ≠ .ok t)
      (hs' : ∀ t, Scalar.readTimestamp (.text s') ≠ .ok t) : LikeInstant (.text s) (.text s')

theorem keepsNull_likeInstant : KeepsNull LikeInstant := by
  have hne {v : Value} {t : Timestamp} (h : Scalar.readTimestamp v = .ok t) : v ≠ .null := by
    rintro rfl
    cases h
  intro v w h
  cases h with
  | order h => exact h.null_iff
  | clocks hv hw _ => exact iff_of_false (hne hv) (hne hw)
  | dateless hs hs' => exact iff_of_false (by simp) (by simp)

/-- The instant of a clock reading is where universal time is. -/
theorem instant?_eq_ofMicros?
    (t : Timestamp) :
    t.instant? = Instant.ofMicros? t.utcMicros := by
  obtain ⟨reading, offset⟩ := t
  cases offset with
  | none =>
    have hmicros : (reading.micros : Int) - 0 = reading.micros := Int.sub_zero _
    simp only [Timestamp.instant?, Timestamp.utcMicros, Timestamp.offsetMicros, Option.getD_none,
      hmicros, Instant.ofMicros?]
    rw [dif_pos ⟨Int.natCast_nonneg _, reading.micros_lt⟩]
    rfl
  | some offset => rfl

theorem instant_eq_accepted_iff
    {i : Instant} :
    instant v = .accepted i ↔
      ∃ t, Scalar.readTimestamp v = .ok t ∧ Instant.ofMicros? t.utcMicros = some i := by
  have hof (t : Timestamp) :
      toInstant t = .accepted i ↔ Instant.ofMicros? t.utcMicros = some i := by
    rw [← instant?_eq_ofMicros?, toInstant]
    cases t.instant? <;> simp
  simp only [instant, Checked.andThen_eq_accepted_iff, scalar_eq_accepted_iff, hof]

/-- Clock readings of one instant are read as the instant, or refused alike where the calendar does
not hold it. -/
theorem respects_instant : Respects LikeInstant instant := by
  intro v w h i
  cases h with
  | order h =>
    refine respects_rearranged (fun {v} hv i hi => ?_) h i
    obtain ⟨t, ht, -⟩ := instant_eq_accepted_iff.mp hi
    rw [readTimestamp_of_isNested hv] at ht
    cases ht
  | clocks hv hw h =>
    rw [instant_eq_accepted_iff, instant_eq_accepted_iff, hv, hw]
    simp only [Except.ok.injEq, exists_eq_left', h]
  | dateless hs hs' =>
    rw [instant_eq_accepted_iff, instant_eq_accepted_iff]
    exact iff_of_false (fun ⟨t, ht, _⟩ => hs t ht) fun ⟨t, ht, _⟩ => hs' t ht

/-- The texts of one instant as clocks with different offsets show it are alike. -/
theorem likeInstant_texts
    {i j : Instant} {minutes minutes' : Int}
    (hminutes : minutes.natAbs < 24 * 60)
    (hminutes' : minutes'.natAbs < 24 * 60)
    (h : (Timestamp.atMinutes i minutes).utcMicros = (Timestamp.atMinutes j minutes').utcMicros) :
    LikeInstant (.text (Timestamp.atMinutes i minutes).text)
      (.text (Timestamp.atMinutes j minutes').text) :=
  .clocks (Scalar.readTimestamp_text i hminutes) (Scalar.readTimestamp_text j hminutes') h

/-- The text of an instant in universal time is like its text by any other clock. -/
theorem likeInstant_utcText
    {i j : Instant} {minutes : Int}
    (hminutes : minutes.natAbs < 24 * 60)
    (h : (Timestamp.atMinutes i minutes).utcMicros = j.micros) :
    LikeInstant (.text (Timestamp.atMinutes i minutes).text) (.text j.utcText) :=
  .clocks (Scalar.readTimestamp_text i hminutes) (Scalar.readTimestamp_utcText j)
    (h.trans (Int.sub_zero _).symm)

/-! ## Lists -/

/-- That values list items that are alike one by one, or are one value but for the order within it. -/
inductive LikeList (R : Likeness) : Likeness
  | order {v w : Value} (h : Rearranged v w) : LikeList R v w
  | items {v w : Value} {xs ys : List Value} (hv : sequence? v = some xs) (hw : sequence? w = some ys)
      (h : List.Forall₂ R xs ys) : LikeList R v w

/-- Values that list items that are alike both list some, or neither does. -/
theorem LikeList.rel_sequence?
    (h : LikeList R v w)
    (hR : ∀ {v w}, Rearranged v w → R v w) :
    (∃ xs ys, sequence? v = some xs ∧ sequence? w = some ys ∧ List.Forall₂ R xs ys) ∨
      sequence? v = none ∧ sequence? w = none := by
  cases h with
  | order h =>
    have hitems := h.rel_sequence?
    generalize sequence? v = xs at hitems ⊢
    generalize sequence? w = ys at hitems ⊢
    cases hitems with
    | none => exact .inr ⟨rfl, rfl⟩
    | some hitems => exact .inl ⟨_, _, rfl, rfl, hitems.imp fun _ _ => hR⟩
  | items hv hw h => exact .inl ⟨_, _, hv, hw, h⟩

theorem toAddresses_eq_accepted_iff
    {ss : List String} {as : List Address} :
    toAddresses ss = .accepted as ↔ List.Forall₂ (fun s a => Address.ofText? s = some a) ss as := by
  induction ss generalizing as with
  | nil =>
    rw [toAddresses, Checked.accepted.injEq, List.forall₂_nil_left_iff]
    exact eq_comm
  | cons s ss ih =>
    simp only [toAddresses, Checked.andThen_eq_accepted_iff, toAddress_eq_accepted_iff,
      Checked.map_eq_accepted_iff, ih, List.forall₂_cons_left_iff]
    constructor
    · rintro ⟨a, ha, as, has, rfl⟩
      exact ⟨a, as, ha, has, rfl⟩
    · rintro ⟨a, as, ha, has, rfl⟩
      exact ⟨a, ha, as, has, rfl⟩

theorem addresses_eq_accepted_iff
    {as : List Address} :
    addresses v = .accepted as ↔
      ∃ xs, sequence? v = some xs ∧ List.Forall₂ (fun x a => address x = .accepted a) xs as := by
  simp only [addresses, Checked.andThen_eq_accepted_iff, toAddresses_eq_accepted_iff,
    address_eq_accepted_iff, forall₂_exists_iff]
  unfold listOf
  cases sequence? v with
  | none => simp [Checked.reject]
  | some xs => simp [Checked.items_eq_accepted_iff, scalar_eq_accepted_iff]

/-- Addresses in a list are read in any spelling. -/
theorem respects_addresses : Respects (LikeList (LikeText Address.spelling)) addresses := by
  intro v w h as
  rw [addresses_eq_accepted_iff, addresses_eq_accepted_iff]
  rcases h.rel_sequence? .order with ⟨xs, ys, hv, hw, hitems⟩ | ⟨hv, hw⟩
  · rw [hv, hw]
    simp only [Option.some.injEq, exists_eq_left',
      forall₂_iff_of_forall₂ hitems fun hxy => respects_address hxy]
  · rw [hv, hw]

end Reading

end RollupAudit
