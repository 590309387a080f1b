import Mathlib.Data.Set.Subsingleton
import RollupAudit.Proofs.Facts.Sections
import RollupAudit.Proofs.Facts.Writings

/-!
# Listed accounts

A section of a document lists addresses as texts. Each of them names no account, as it is blank or has
the number zero, or it names the account with its number, whatever its outer blanks and the case of its
digits. What a section lists is known by the accounts that its texts name.

**Results.**
* `Address.spells_iff`: a text that spells an account denotes it.
* `Reading.mem_accounts_iff`: the accounts that a list names are those that it is read as.
* `Reading.ListsSame.accounts_eq`: spelling and entries that name no account do not matter.
-/

namespace RollupAudit

namespace Address

open Text

/-- That a text writes the number of an account with 40 hexadecimal digits. -/
def Spells (s : String) (n : Fin accountCount) : Prop :=
  ∃ digits, spelling s = '0' :: 'x' :: digits ∧ digits.length = 40 ∧ hexNumber? 0 digits = some n.val

/-- That a text names no account: it is blank, or spells the account zero. -/
def NamesNone (s : String) : Prop := spelling s = [] ∨ ∃ n, Spells s n ∧ n.val = 0

/-- That a text names an account. -/
def Names (s : String) (n : Fin accountCount) : Prop := Spells s n ∧ n.val ≠ 0

/-- A trimmed text that denotes an address is empty or has the digits of an account. -/
theorem ofTrimmed?_cases
    {cs : List Char} {a : Address}
    (h : ofTrimmed? cs = some a) :
    (cs = [] ∧ a = blank) ∨ ∃ digits n, cs = '0' :: 'x' :: digits ∧ digits.length = 40 ∧
      hexNumber? 0 digits = some n.val ∧ a = account n := by
  unfold ofTrimmed? at h
  split at h
  · exact .inl ⟨rfl, (Option.some.inj h).symm⟩
  · rename_i digits
    rw [Option.ite_none_right_eq_some] at h
    obtain ⟨hlength, h⟩ := h
    obtain ⟨m, hm, hnumber⟩ := Option.bind_eq_some_iff.mp h
    unfold ofNumber? at hnumber
    split at hnumber
    · exact .inr ⟨digits, ⟨m, ‹_›⟩, rfl, hlength, hm, (Option.some.inj hnumber).symm⟩
    · cases hnumber
  · cases h

theorem ofText?_eq_ofTrimmed?_spelling (s : String) : ofText? s = ofTrimmed? (spelling s) :=
  (ofTrimmed?_smallDigit _).symm

/-- A text that spells an account denotes it. -/
theorem spells_iff
    {s : String} {n : Fin accountCount} :
    Spells s n ↔ ofText? s = some (account n) := by
  rw [ofText?_eq_ofTrimmed?_spelling, Spells]
  constructor
  · rintro ⟨digits, hspelling, hlength, hnumber⟩
    rw [hspelling, ofTrimmed?, if_pos hlength, hnumber, Option.bind_some, ofNumber?, dif_pos n.isLt]
  · intro h
    obtain ⟨-, ⟨⟩⟩ | ⟨digits, n, hspelling, hlength, hnumber, ⟨⟩⟩ := ofTrimmed?_cases h
    exact ⟨digits, hspelling, hlength, hnumber⟩

theorem spelling_eq_nil_iff
    {s : String} :
    spelling s = [] ↔ ofText? s = some blank := by
  rw [ofText?_eq_ofTrimmed?_spelling]
  constructor
  · intro h
    rw [h]
    rfl
  · intro h
    obtain ⟨hnil, -⟩ | ⟨_, _, -, -, -, ⟨⟩⟩ := ofTrimmed?_cases h
    exact hnil

/-- A text names no account exactly if it denotes an address that is unset. -/
theorem namesNone_iff
    {s : String} :
    NamesNone s ↔ (ofText? s).any isUnset = true := by
  rw [NamesNone, spelling_eq_nil_iff, Option.any_eq_true]
  constructor
  · rintro (hblank | ⟨n, hspells, hzero⟩)
    · exact ⟨_, hblank, rfl⟩
    · exact ⟨_, spells_iff.mp hspells, beq_iff_eq.mpr hzero⟩
  · rintro ⟨a, ha, hunset⟩
    cases a with
    | blank => exact .inl ha
    | account n => exact .inr ⟨n, spells_iff.mpr ha, beq_iff_eq.mp hunset⟩

/-- A text that names an account does not name none. -/
theorem not_namesNone_of_names
    {s : String} {n : Fin accountCount}
    (h : Names s n) :
    ¬ NamesNone s := by
  rw [namesNone_iff, spells_iff.mp h.1]
  exact mt beq_iff_eq.mp h.2

end Address

namespace Reading

open Fields Value

/-- That a section lists a text under a name. -/
def Lists (ss : Entries) (name : String) (s : String) : Prop :=
  ∃ v items, lookup? name ss = some v ∧ sequence? v = some items ∧
    ∃ w ∈ items, Scalar.readText w = .ok s

/-- The accounts that the texts under a name of a section name. -/
def accounts (ss : Entries) (name : String) : Set (Fin accountCount) :=
  { n | ∃ s, Lists ss name s ∧ Address.Names s n }

/-- That a section lists under a name whatever account another lists there, in one spelling. -/
def ListsAllOf (ss ss' : Entries) (name : String) : Prop :=
  ∀ s, Lists ss' name s → ¬ Address.NamesNone s →
    ∃ t, Lists ss name t ∧ Address.spelling t = Address.spelling s

/-- That two sections list under a name whatever account the other lists there. -/
def ListsSame (ss ss' : Entries) (name : String) : Prop :=
  ListsAllOf ss ss' name ∧ ListsAllOf ss' ss name

variable {ss ss' : Entries} {name s : String} {as : List Address} {a : Address} {n : Fin accountCount}

/-- Each text that is listed denotes one of the addresses that the list is read as. -/
theorem exists_mem_of_lists
    (h : optional ss name [] addresses = .accepted as)
    (hs : Lists ss name s) :
    ∃ a ∈ as, Address.ofText? s = some a := by
  obtain ⟨v, items, hv, hitems, w, hw, hread⟩ := hs
  rcases optional_eq_accepted_iff.mp h with ⟨habsent, -⟩ | ⟨v', hv', has⟩
  · rw [hv] at habsent
    cases habsent
  · obtain rfl : v = v' := Option.some.inj (hv.symm.trans hv')
    obtain ⟨xs, hxs, hall⟩ := addresses_eq_accepted_iff.mp has
    obtain rfl : items = xs := Option.some.inj (hitems.symm.trans hxs)
    obtain ⟨a, ha, hwa⟩ := exists_mem_of_forall₂ hall hw
    obtain ⟨s', hread', htext⟩ := address_eq_accepted_iff.mp hwa
    cases hread.symm.trans hread'
    exact ⟨a, ha, htext⟩

/-- Each of the addresses that a list is read as is denoted by a text that is listed. -/
theorem exists_lists_of_mem
    (h : optional ss name [] addresses = .accepted as)
    (ha : a ∈ as) :
    ∃ s, Lists ss name s ∧ Address.ofText? s = some a := by
  rcases optional_eq_accepted_iff.mp h with ⟨-, rfl⟩ | ⟨v, hv, has⟩
  · cases ha
  · obtain ⟨xs, hxs, hall⟩ := addresses_eq_accepted_iff.mp has
    obtain ⟨w, hw, hwa⟩ := exists_mem_of_forall₂ (List.Forall₂.flip (R := flip _) hall) ha
    obtain ⟨s, hread, htext⟩ := address_eq_accepted_iff.mp hwa
    exact ⟨s, ⟨v, xs, hv, hxs, w, hw, hread⟩, htext⟩

/-- The accounts that a list names are those that it is read as. -/
theorem mem_accounts_iff
    (h : optional ss name [] addresses = .accepted as) :
    n ∈ accounts ss name ↔ .account n ∈ as ∧ n.val ≠ 0 := by
  constructor
  · rintro ⟨s, hs, hspells, hn⟩
    obtain ⟨a, ha, htext⟩ := exists_mem_of_lists h hs
    cases (Address.spells_iff.mp hspells).symm.trans htext
    exact ⟨ha, hn⟩
  · rintro ⟨ha, hn⟩
    obtain ⟨s, hs, htext⟩ := exists_lists_of_mem h ha
    exact ⟨s, hs, Address.spells_iff.mpr htext, hn⟩

/-- Whatever is listed names no account or one. -/
theorem namesNone_or_exists_names
    (h : optional ss name [] addresses = .accepted as)
    (hs : Lists ss name s) :
    Address.NamesNone s ∨ ∃ n, Address.Names s n := by
  obtain ⟨a, -, htext⟩ := exists_mem_of_lists h hs
  cases a with
  | blank => exact .inl (.inl (Address.spelling_eq_nil_iff.mpr htext))
  | account n =>
    have hspells := Address.spells_iff.mpr htext
    by_cases hn : n.val = 0
    · exact .inl (.inr ⟨n, hspells, hn⟩)
    · exact .inr ⟨n, hspells, hn⟩

/-- A section that lists whatever account another lists names its accounts. -/
theorem ListsAllOf.accounts_subset
    (h : ListsAllOf ss ss' name) :
    accounts ss' name ⊆ accounts ss name := by
  rintro n ⟨s, hs, hnames⟩
  obtain ⟨t, ht, hspelling⟩ := h s hs (Address.not_namesNone_of_names hnames)
  refine ⟨t, ht, ?_, hnames.2⟩
  rw [Address.Spells, hspelling]
  exact hnames.1

/-- Sections that list each other's accounts name the same ones. -/
theorem ListsSame.accounts_eq
    (h : ListsSame ss ss' name) :
    accounts ss name = accounts ss' name :=
  Set.Subset.antisymm h.2.accounts_subset h.1.accounts_subset

end Reading
end RollupAudit
