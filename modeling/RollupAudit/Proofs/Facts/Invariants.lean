import RollupAudit.Proofs.Facts.Overrides

/-!
# What every snapshot is like

However a snapshot is reached, its document form keeps the promises that the checks rely on: the
times are universal, the amounts finite and not below zero, the addresses in their one spelling, and
the parameters in the order of their names. Each field holds one of few kinds of values, and nothing
but a parameter is an arbitrary scalar.

**Results.**
* `Facts.value_of_at?`: what the document form of a snapshot has at a path.
* `Facts.IsReachable.isWellFormed`: the promises hold of every snapshot that is reached.
-/

namespace RollupAudit

open Text Fields Value Reading

/-- The values that the fields of a snapshot hold. -/
inductive IsFieldValue : Value → Prop
  | null : IsFieldValue .null
  | flag (b : Bool) : IsFieldValue (.bool b)
  | text (s : String) : IsFieldValue (.text s)
  | count (n : Nat) : IsFieldValue (.int (Int.ofNat n))
  | amount (d : Decimal) (h : d.IsAmount) : IsFieldValue (.decimal (.finite d))
  | instant (i : Instant) : IsFieldValue (.timestamp (.ofInstant i))
  | addresses (as : List Address) : IsFieldValue (.tuple (as.map fun a => .text a.text))

namespace IsFieldValue

variable {v w : Value} {path : List String}

theorem ofOption
    {α : Type} {write : α → Value} {o : Option α}
    (h : ∀ a ∈ o, IsFieldValue (write a)) :
    IsFieldValue (Value.ofOption write o) := by
  cases o with
  | none => exact .null
  | some a => exact h a rfl

theorem ne_mapping
    (h : IsFieldValue v)
    (es : Entries) :
    v ≠ .mapping es := by
  rintro rfl
  cases h

end IsFieldValue

theorem OperatorFacts.isFieldValue_of_mem (o : OperatorFacts) :
    ∀ e ∈ entriesOf o.toValue, IsFieldValue e.2 := by
  simp only [OperatorFacts.toValue, entriesOf, List.forall_mem_cons]
  exact ⟨.addresses _, .addresses _, .ofOption fun s _ => .text s, .ofOption fun i _ => .instant i,
    .ofOption fun b _ => .flag b, .ofOption fun b _ => .flag b, nofun⟩

theorem UpgradeFacts.isFieldValue_of_mem (u : UpgradeFacts) :
    ∀ e ∈ entriesOf u.toValue, IsFieldValue e.2 := by
  simp only [UpgradeFacts.toValue, entriesOf, List.forall_mem_cons]
  exact ⟨.ofOption fun n _ => .count n, .ofOption fun a _ => .text a.text,
    .ofOption fun b _ => .flag b, .ofOption fun a _ => .text a.text,
    .ofOption fun i _ => .instant i, nofun⟩

theorem WithdrawalFacts.isFieldValue_of_mem {w : WithdrawalFacts} (h : w.IsNormal) :
    ∀ e ∈ entriesOf w.toValue, IsFieldValue e.2 := by
  simp only [WithdrawalFacts.toValue, entriesOf, List.forall_mem_cons]
  exact ⟨.ofOption fun n _ => .count n, .ofOption fun d hd => .amount d (h.liquidity d hd),
    .ofOption fun d hd => .amount d (h.pendingTotal d hd), .ofOption fun b _ => .flag b,
    .ofOption fun b _ => .flag b, nofun⟩

theorem AnchorFacts.isFieldValue_of_mem (a : AnchorFacts) :
    ∀ e ∈ entriesOf a.toValue, IsFieldValue e.2 := by
  simp only [AnchorFacts.toValue, entriesOf, List.forall_mem_cons]
  exact ⟨.instant _, .text _, .ofOption fun s _ => .text s, nofun⟩

theorem OracleFacts.isFieldValue_of_mem (o : OracleFacts) :
    ∀ e ∈ entriesOf o.toValue, IsFieldValue e.2 := by
  simp only [OracleFacts.toValue, entriesOf, List.forall_mem_cons]
  exact ⟨.ofOption fun a _ => .text a.text, .ofOption fun a _ => .text a.text,
    .ofOption fun n _ => .count n, .ofOption fun i _ => .instant i, nofun⟩

namespace Value

variable {es : Entries} {name : String} {path : List String} {v w : Value}

/-- A path into a section ends at the section or at a field. -/
theorem at?_section
    {α : Type} {write : α → Value} {o : Option α}
    (hwrite : ∀ a, write a = .mapping (entriesOf (write a)))
    (hfields : ∀ a ∈ o, ∀ e ∈ entriesOf (write a), IsFieldValue e.2)
    (hw : at? path (some (ofOption write o)) = some w) :
    (∃ es, w = .mapping es) ∨ IsFieldValue w := by
  cases o with
  | none =>
    obtain ⟨-, rfl⟩ := at?_of_ne_mapping IsFieldValue.null.ne_mapping hw
    exact .inr .null
  | some a =>
    rw [ofOption, hwrite] at hw
    cases path with
    | nil => exact .inl ⟨_, (Option.some.inj hw).symm⟩
    | cons name path =>
      rw [at?] at hw
      obtain ⟨x, hx⟩ := Option.ne_none_iff_exists'.mp (ne_none_of_at? hw)
      have hvalue := hfields a rfl _ (mem_of_lookup?_eq_some hx)
      rw [hx] at hw
      obtain ⟨-, rfl⟩ := at?_of_ne_mapping hvalue.ne_mapping hw
      exact .inr hvalue

end Value

namespace Facts

variable {f : Facts} {path : List String} {v w : Value}

theorem at?_parameter
    {name : String} :
    at? ["parameters", name] (some f.toValue) = (f.parameter? name).map Parameter.toValue :=
  Parameter.lookup?_toEntries

/-- What the document form of a snapshot has at a path: entries, the value of a field, or a
parameter. -/
theorem value_of_at?
    (h : f.IsNormal)
    (hw : at? path (some f.toValue) = some w) :
    (∃ es, w = .mapping es) ∨ IsFieldValue w ∨
      ∃ name p, path = ["parameters", name] ∧ w = Parameter.toValue p := by
  cases path with
  | nil => exact .inl ⟨_, (Option.some.inj hw).symm⟩
  | cons name path =>
    rw [toValue, at?] at hw
    obtain ⟨x, hx⟩ := Option.ne_none_iff_exists'.mp (ne_none_of_at? hw)
    have hmem := mem_of_lookup?_eq_some hx
    rw [hx] at hw
    have hfield : IsFieldValue x → IsFieldValue w := by
      intro hvalue
      obtain ⟨-, rfl⟩ := at?_of_ne_mapping hvalue.ne_mapping hw
      exact hvalue
    simp only [toEntries, List.mem_cons, Prod.mk.injEq, Value.text.injEq, List.not_mem_nil,
      or_false] at hmem
    rcases hmem with ⟨-, rfl⟩ | ⟨-, rfl⟩ | ⟨-, rfl⟩ | ⟨-, rfl⟩ | ⟨-, rfl⟩ | ⟨-, rfl⟩ | ⟨-, rfl⟩ |
      ⟨-, rfl⟩ | ⟨-, rfl⟩ | ⟨rfl, rfl⟩
    · rw [h.version] at hfield
      exact .inr (.inl (hfield (.count formVersion)))
    · exact .inr (.inl (hfield (.text _)))
    · exact .inr (.inl (hfield (.instant _)))
    · exact (at?_section (fun _ => rfl) (fun o _ => o.isFieldValue_of_mem) hw).imp_right .inl
    · exact (at?_section (fun _ => rfl) (fun o _ => o.isFieldValue_of_mem) hw).imp_right .inl
    · exact (at?_section (fun _ => rfl) (fun u _ => u.isFieldValue_of_mem) hw).imp_right .inl
    · exact (at?_section (fun _ => rfl)
        (fun w hw => WithdrawalFacts.isFieldValue_of_mem (h.withdrawal w hw)) hw).imp_right .inl
    · exact (at?_section (fun _ => rfl) (fun a _ => a.isFieldValue_of_mem) hw).imp_right .inl
    · exact (at?_section (fun _ => rfl) (fun o _ => o.isFieldValue_of_mem) hw).imp_right .inl
    · cases path with
      | nil => exact .inl ⟨_, (Option.some.inj hw).symm⟩
      | cons name path =>
        change at? path (at? ["parameters", name] (some f.toValue)) = some w at hw
        rw [at?_parameter] at hw
        obtain ⟨_, hx⟩ := Option.ne_none_iff_exists'.mp (ne_none_of_at? hw)
        obtain ⟨p, -, rfl⟩ := Option.map_eq_some_iff.mp hx
        rw [hx] at hw
        obtain ⟨rfl, rfl⟩ := at?_of_ne_mapping p.toValue_ne_mapping hw
        exact .inr (.inr ⟨name, p, rfl, rfl⟩)

/-! ## Stored addresses -/

/-- The paths of the addresses of a snapshot. -/
def addressPaths : List (List String) :=
  [["upgrade", "admin_address"], ["upgrade", "pending_implementation"],
    ["oracle", "primary_address"], ["oracle", "backup_address"]]

/-- The paths of the lists of addresses of a snapshot. -/
def addressListPaths : List (List String) :=
  [["sequencer", "addresses"], ["sequencer", "backup_addresses"],
    ["proposer", "addresses"], ["proposer", "backup_addresses"]]

/-- That a snapshot stores a value for an address. -/
inductive StoresAddress (f : Facts) : Value → Prop
  | field {path : List String} {v : Value} (hpath : path ∈ addressPaths)
      (h : at? path (some f.toValue) = some v) : StoresAddress f v
  | item {path : List String} {items : List Value} {v : Value} (hpath : path ∈ addressListPaths)
      (h : at? path (some f.toValue) = some (.tuple items)) (hv : v ∈ items) : StoresAddress f v

/-- A path below a section that is not there ends nowhere. -/
theorem exists_of_at?_section
    {α : Type} {write : α → Value} {o : Option α} {name : String}
    (h : at? (name :: path) (some (ofOption write o)) = some v) :
    ∃ a, o = some a ∧ at? (name :: path) (some (write a)) = some v := by
  cases o with
  | none => cases h
  | some a => exact ⟨a, rfl, h⟩

/-- What is stored for an address is null or the text of an address. -/
theorem StoresAddress.exists_eq
    (h : f.StoresAddress v) :
    ∃ o : Option Address, v = ofOption (fun a => .text a.text) o := by
  cases h with
  | field hpath h =>
    simp only [addressPaths, List.mem_cons, List.not_mem_nil, or_false] at hpath
    rcases hpath with rfl | rfl | rfl | rfl
    · obtain ⟨u, -, hu⟩ := exists_of_at?_section (o := f.upgrade) h
      exact ⟨u.admin, (Option.some.inj hu).symm⟩
    · obtain ⟨u, -, hu⟩ := exists_of_at?_section (o := f.upgrade) h
      exact ⟨u.pendingImplementation, (Option.some.inj hu).symm⟩
    · obtain ⟨o, -, ho⟩ := exists_of_at?_section (o := f.oracle) h
      exact ⟨o.primary, (Option.some.inj ho).symm⟩
    · obtain ⟨o, -, ho⟩ := exists_of_at?_section (o := f.oracle) h
      exact ⟨o.backup, (Option.some.inj ho).symm⟩
  | item hpath h hv =>
    rename_i items
    have hitems : ∀ as : List Address, some (Value.tuple (as.map fun a => .text a.text)) =
        some (.tuple items) → ∃ o : Option Address, v = ofOption (fun a => .text a.text) o := by
      rintro as ⟨⟩
      obtain ⟨a, -, rfl⟩ := List.mem_map.mp hv
      exact ⟨some a, rfl⟩
    simp only [addressListPaths, List.mem_cons, List.not_mem_nil, or_false] at hpath
    rcases hpath with rfl | rfl | rfl | rfl
    · obtain ⟨o, -, ho⟩ := exists_of_at?_section (o := f.sequencer) h
      exact hitems o.addresses ho
    · obtain ⟨o, -, ho⟩ := exists_of_at?_section (o := f.sequencer) h
      exact hitems o.backups ho
    · obtain ⟨o, -, ho⟩ := exists_of_at?_section (o := f.proposer) h
      exact hitems o.addresses ho
    · obtain ⟨o, -, ho⟩ := exists_of_at?_section (o := f.proposer) h
      exact hitems o.backups ho

theorem StoresAddress.exists_address
    {s : String}
    (h : f.StoresAddress (.text s)) :
    ∃ a : Address, s = a.text := by
  obtain ⟨o, ho⟩ := h.exists_eq
  cases o with
  | none => cases ho
  | some a => exact ⟨a, Value.text.inj ho⟩

/-! ## The promises -/

/-- What holds of every snapshot that can be reached. -/
structure IsWellFormed (f : Facts) : Prop where
  version : f.version = 1
  chainId_ne : f.chainId ≠ ""
  chainId_trimmed : IsTrimmed isBlank f.chainId.toList
  /-- Every time is universal. -/
  times : ∀ {path t}, at? path (some f.toValue) = some (.timestamp t) → t.offset = some 0
  /-- Every decimal number is finite and not below zero. -/
  decimals : ∀ {path x}, at? path (some f.toValue) = some (.decimal x) →
    ∃ d : Decimal, x = .finite d ∧ 0 ≤ d.signed
  /-- Every delay and bound is not below zero: the integers of the sections are these. -/
  seconds : ∀ {path n}, at? path (some f.toValue) = some (.int n) →
    path.head? ≠ some "parameters" → 0 ≤ n
  /-- Every address is absent, empty, or the text of an account. -/
  addresses : ∀ {v}, f.StoresAddress v → v = .null ∨ v = .text "" ∨
    ∃ s n, v = .text s ∧ Address.IsAccountText s n
  /-- Addresses that are set have one text exactly if they are one account. -/
  accounts : ∀ {s t m n}, f.StoresAddress (.text s) → f.StoresAddress (.text t) →
    Address.IsAccountText s m → Address.IsAccountText t n → (s = t ↔ m = n)
  /-- An address is unset exactly if it is absent, empty, or the account zero. -/
  unset : ∀ {v}, f.StoresAddress v → (Address.isUnsetText (keyText? v) = true ↔
    v = .null ∨ v = .text "" ∨ v = .text Address.zeroText)
  names_increasing : (f.parameters.map Prod.fst).Pairwise (· < ·)
  names_notBlank : ∀ name ∈ f.parameters.map Prod.fst, isBlankText name = false
  /-- Every parameter is a flag, an integer, a floating-point number or a text. -/
  kinds : ∀ {name v}, at? ["parameters", name] (some f.toValue) = some v →
    (∃ b, v = .bool b) ∨ (∃ n, v = .int n) ∨ (∃ x, v = .float x) ∨ ∃ s, v = .text s
  /-- A parameter is found by its name. -/
  found : ∀ {name p}, f.parameter? name = some p ↔ (name, p) ∈ f.parameters
  /-- The value of a parameter is the stored one, or the default where there is none. -/
  stored : ∀ {name} (default : Value), (f.parameter? name).elim default Parameter.toValue =
    (at? ["parameters", name] (some f.toValue)).getD default

theorem signed_nonneg_of_isAmount
    {d : Decimal}
    (h : d.IsAmount) :
    0 ≤ d.signed := by
  have hsign : (d.negative && !d.isZero) = false := h
  cases hnegative : d.negative with
  | false => simp [Decimal.signed, hnegative]
  | true =>
    have hzero : d.coefficient = 0 := by simpa [hnegative, Decimal.isZero] using hsign
    simp [Decimal.signed, hnegative, hzero]

theorem isWellFormed_of_isNormal
    (h : f.IsNormal) :
    f.IsWellFormed where
  version := h.version
  chainId_ne := h.chainId_ne
  chainId_trimmed := by
    have htrim : trimBy isBlank f.chainId.toList = f.chainId.toList := by
      simpa [strip] using congrArg String.toList h.chainId
    rw [← htrim]
    exact isTrimmed_trimBy isBlank f.chainId.toList
  times := by
    intro path t ht
    rcases value_of_at? h ht with ⟨_, ⟨⟩⟩ | hvalue | ⟨_, p, -, hp⟩
    · cases hvalue
      rfl
    · cases p <;> cases hp
  decimals := by
    intro path x hx
    rcases value_of_at? h hx with ⟨_, ⟨⟩⟩ | hvalue | ⟨_, p, -, hp⟩
    · cases hvalue with
      | amount d hd => exact ⟨d, rfl, signed_nonneg_of_isAmount hd⟩
    · cases p <;> cases hp
  seconds := by
    intro path n hn hpath
    rcases value_of_at? h hn with ⟨_, ⟨⟩⟩ | hvalue | ⟨name, p, rfl, -⟩
    · cases hvalue
      exact Int.natCast_nonneg _
    · exact absurd rfl hpath
  addresses := by
    intro v hv
    obtain ⟨o, rfl⟩ := hv.exists_eq
    cases o with
    | none => exact .inl rfl
    | some a =>
      cases a with
      | blank => exact .inr (.inl rfl)
      | account n => exact .inr (.inr ⟨_, n, rfl, Address.isAccountText_text n⟩)
  accounts := by
    intro s t m n hs ht hm hn
    obtain ⟨a, rfl⟩ := hs.exists_address
    obtain ⟨b, rfl⟩ := ht.exists_address
    rw [Address.isAccountText_text_iff] at hm hn
    subst hm hn
    constructor
    · intro heq
      exact Address.account.inj (Address.text_injective heq)
    · rintro rfl
      rfl
  unset := by
    intro v hv
    obtain ⟨o, rfl⟩ := hv.exists_eq
    cases o with
    | none => simp [ofOption, Address.isUnsetText, keyText?]
    | some a =>
      simp [ofOption, keyText?, Address.isUnsetText_text, Address.text_eq_empty_iff,
        Address.text_eq_zeroText_iff]
  names_increasing := by
    have hincreasing : (f.parameters.map Prod.fst).Pairwise (· ≤ ·) :=
      List.pairwise_map.mpr h.parameters.increasing
    refine (hincreasing.and h.parameters.nodup).imp ?_
    rintro s t ⟨hle, hne⟩
    exact String.not_le.mp fun hge => hne (String.le_antisymm hle hge)
  names_notBlank := by
    intro name hname
    obtain ⟨p, hp, rfl⟩ := List.mem_map.mp hname
    exact h.parameters.notBlank p hp
  kinds := by
    intro name v hv
    rw [at?_parameter] at hv
    obtain ⟨p, -, rfl⟩ := Option.map_eq_some_iff.mp hv
    cases p with
    | flag b => exact .inl ⟨b, rfl⟩
    | int n => exact .inr (.inl ⟨n, rfl⟩)
    | float x => exact .inr (.inr (.inl ⟨x, rfl⟩))
    | text s => exact .inr (.inr (.inr ⟨s, rfl⟩))
  found := Parameter.lookup?_eq_some_iff h.parameters
  stored := by
    intro name default
    rw [at?_parameter]
    cases f.parameter? name <;> rfl

theorem IsReachable.isWellFormed
    (h : f.IsReachable) :
    f.IsWellFormed :=
  isWellFormed_of_isNormal (isNormal_of_ofValue h.ofValue_toValue)

/-- A chain with an oracle that one account answers for. -/
def pricedChain : Facts :=
  { bareChain with oracle := some { primary := some (.account ⟨172, by decide⟩) } }

theorem isReachable_pricedChain : pricedChain.IsReachable := by
  let spelling : Value := .text " 0x00000000000000000000000000000000000000AC "
  have hparts : pathParts "oracle.primary_address" = ["oracle", "primary_address"] := by decide
  have hset : setPath spelling ["oracle", "primary_address"] bareChain.toEntries =
      .ok (setText "oracle" (.mapping [(.text "primary_address", spelling)]) bareChain.toEntries) :=
    rfl
  have hoverride : bareChain.override "oracle.primary_address" spelling = .ok pricedChain := by
    rw [override, hparts]
    simp only [hset]
    refine ofValue_eq_ok_iff.mpr ⟨_, rfl, ⟨rfl, rfl⟩, ?_⟩
    exact ⟨rfl, chainId_of_lookup? rfl, rfl, rfl, rfl, rfl, rfl, rfl, rfl, parameters_of_lookup? rfl⟩
  exact .override isReachable_bareChain hoverride

/-- An address that was given with blanks and capitals is stored in the one spelling. -/
theorem wellFormed_pricedChain :
    pricedChain.IsReachable ∧ pricedChain.IsWellFormed ∧
      pricedChain.StoresAddress (.text "0x00000000000000000000000000000000000000ac") :=
  ⟨isReachable_pricedChain, isReachable_pricedChain.isWellFormed,
    .field (by decide : ["oracle", "primary_address"] ∈ addressPaths) rfl⟩

end Facts
end RollupAudit
