import RollupAudit.Proofs.Facts.Records

/-!
# Slots of sections

The tables of the five kinds of sections. A field of each kind is accepted exactly if its slot holds
the document form of what was read, so that each section is a record by its table.

**Results.**
* `Reading.isRecord_operator` and those of the other sections: a section is a record.
-/

namespace RollupAudit

open Fields Value

namespace Reading

variable {α : Type} {read : Value → Check α} {write : α → Value} {es : Entries} {name : String}
  {v : Value}

theorem optional_iff_slot
    {d a : α}
    (h : Faithful read write)
    (hdefault : read (write d) = .accepted d) :
    optional es name d read = .accepted a ↔
      slot (some d) read write (lookup? name es) (some (write a)) := by
  rw [optional_iff_gives, slot_write_iff h]
  rintro _ ⟨⟩
  exact hdefault

theorem required_iff_slot
    {a : α}
    (h : Faithful read write) :
    required es name read = .accepted a ↔
      slot none read write (lookup? name es) (some (write a)) := by
  rw [required_iff_gives, slot_write_iff h]
  rintro _ ⟨⟩

theorem field_iff_slot
    {o : Option α}
    (h : Faithful read write)
    (hnull : ∀ a, write a ≠ .null) :
    field es name read = .accepted o ↔
      nullableSlot read write (lookup? name es) (some (ofOption write o)) := by
  rw [field, optional_iff_gives, nullableSlot,
    slot_write_iff (h.nullable hnull) nullable_null_of_mem]

/-! ## Kinds of fields -/

def flagSlot : Slot := nullableSlot (scalar Scalar.readFlag) .bool

theorem isLeaf_flagSlot : flagSlot.IsLeaf :=
  isLeaf_nullableSlot faithful_flag (by simp) nofun

theorem flag_iff_slot
    {o : Option Bool} :
    (field es name (scalar Scalar.readFlag) : Check _) = .accepted o ↔
      flagSlot (lookup? name es) (some (ofOption .bool o)) :=
  field_iff_slot faithful_flag (by simp)

def textSlot : Slot := nullableSlot (scalar Scalar.readText) .text

theorem isLeaf_textSlot : textSlot.IsLeaf :=
  isLeaf_nullableSlot faithful_text (by simp) nofun

theorem text_iff_slot
    {o : Option String} :
    (field es name (scalar Scalar.readText) : Check _) = .accepted o ↔
      textSlot (lookup? name es) (some (ofOption .text o)) :=
  field_iff_slot faithful_text (by simp)

def policySlot : Slot := nullableSlot policyText .text

theorem isLeaf_policySlot : policySlot.IsLeaf :=
  isLeaf_nullableSlot faithful_policy (by simp) nofun

theorem policy_iff_slot
    {o : Option String} :
    field es name policyText = .accepted o ↔
      policySlot (lookup? name es) (some (ofOption .text o)) :=
  field_iff_slot faithful_policy (by simp)

def secondsSlot : Slot := nullableSlot (scalar Scalar.readNat) fun n => .int (Int.ofNat n)

theorem isLeaf_secondsSlot : secondsSlot.IsLeaf :=
  isLeaf_nullableSlot faithful_seconds (by simp) nofun

theorem seconds_iff_slot
    {o : Option Nat} :
    (field es name (scalar Scalar.readNat) : Check _) = .accepted o ↔
      secondsSlot (lookup? name es) (some (ofOption (fun n => .int (Int.ofNat n)) o)) :=
  field_iff_slot faithful_seconds (by simp)

def amountSlot : Slot := nullableSlot (scalar Scalar.readAmount) fun d => .decimal (.finite d)

theorem isLeaf_amountSlot : amountSlot.IsLeaf :=
  isLeaf_nullableSlot faithful_amount (by simp) nofun

theorem amount_iff_slot
    {o : Option Decimal} :
    (field es name (scalar Scalar.readAmount) : Check _) = .accepted o ↔
      amountSlot (lookup? name es) (some (ofOption (fun d => .decimal (.finite d)) o)) :=
  field_iff_slot faithful_amount (by simp)

def instantSlot : Slot := nullableSlot instant fun i => .timestamp (.ofInstant i)

theorem isLeaf_instantSlot : instantSlot.IsLeaf :=
  isLeaf_nullableSlot faithful_instant (by simp) nofun

theorem instant_iff_slot
    {o : Option Instant} :
    field es name instant = .accepted o ↔
      instantSlot (lookup? name es) (some (ofOption (fun i => .timestamp (.ofInstant i)) o)) :=
  field_iff_slot faithful_instant (by simp)

/-- The slot of an instant that has to be there. -/
def givenInstantSlot : Slot := slot none instant fun i => .timestamp (.ofInstant i)

theorem isLeaf_givenInstantSlot : givenInstantSlot.IsLeaf :=
  isLeaf_slot faithful_instant (by simp) nofun

theorem givenInstant_iff_slot
    {i : Instant} :
    required es name instant = .accepted i ↔
      givenInstantSlot (lookup? name es) (some (.timestamp (.ofInstant i))) :=
  required_iff_slot faithful_instant

def addressSlot : Slot := nullableSlot address fun a => .text a.text

theorem isLeaf_addressSlot : addressSlot.IsLeaf :=
  isLeaf_nullableSlot faithful_address (by simp) nofun

theorem address_iff_slot
    {o : Option Address} :
    field es name address = .accepted o ↔
      addressSlot (lookup? name es) (some (ofOption (fun a => .text a.text) o)) :=
  field_iff_slot faithful_address (by simp)

def addressesSlot : Slot := slot (some []) addresses fun as => .tuple (as.map fun a => .text a.text)

theorem isLeaf_addressesSlot : addressesSlot.IsLeaf := by
  refine isLeaf_slot faithful_addresses ?_ nofun
  rintro _ ⟨⟩
  rfl

theorem addresses_iff_slot
    {as : List Address} :
    optional es name [] addresses = .accepted as ↔
      addressesSlot (lookup? name es) (some (.tuple (as.map fun a => .text a.text))) :=
  optional_iff_slot faithful_addresses rfl

/-- The slot of a name that may be left out, and is empty then. -/
def registrySlot : Slot := slot (some "") stripped .text

theorem isLeaf_registrySlot : registrySlot.IsLeaf := by
  refine isLeaf_slot faithful_stripped ?_ nofun
  rintro _ ⟨⟩
  rfl

theorem registry_iff_slot
    {s : String} :
    optional es name "" stripped = .accepted s ↔
      registrySlot (lookup? name es) (some (.text s)) :=
  optional_iff_slot faithful_stripped rfl

/-! ## Sections -/

def operatorTable : List (String × Slot) :=
  [("addresses", addressesSlot), ("backup_addresses", addressesSlot),
    ("rotation_policy", policySlot), ("last_activity_at", instantSlot),
    ("force_inclusion_enabled", flagSlot), ("permissionless_fallback", flagSlot)]

theorem isLeaf_of_mem_operatorTable : ∀ e ∈ operatorTable, e.2.IsLeaf := by
  simp only [operatorTable, List.forall_mem_cons]
  exact ⟨isLeaf_addressesSlot, isLeaf_addressesSlot, isLeaf_policySlot, isLeaf_instantSlot,
    isLeaf_flagSlot, isLeaf_flagSlot, nofun⟩

theorem isRecord_operator : IsRecord operator OperatorFacts.toValue operatorTable where
  lawful e he := .leaf (isLeaf_of_mem_operatorTable e he)
  reserved := by decide
  nodup := by decide
  toValue_eq _ := rfl
  names _ := rfl
  reads := by
    intro v o
    simp only [operator_eq_accepted_iff, givesOperator_iff, addresses_iff_slot, policy_iff_slot,
      instant_iff_slot, flag_iff_slot, operatorTable, List.forall_mem_cons, List.not_mem_nil, false_implies,
      implies_true, and_true]
    rfl
  complete := by
    intro es ds h
    simp only [operatorTable, List.forall_mem_cons] at h
    obtain ⟨⟨as, -, has⟩, ⟨bs, -, hbs⟩, ⟨p, -, hp⟩, ⟨i, -, hi⟩, ⟨f, -, hf⟩, ⟨g, -, hg⟩, -⟩ := h
    refine ⟨⟨as, bs, p, i, f, g⟩, ?_⟩
    simp only [operatorTable, List.map_cons, List.forall_mem_cons]
    exact ⟨has, hbs, hp, hi, hf, hg, nofun⟩

def upgradeTable : List (String × Slot) :=
  [("delay_seconds", secondsSlot), ("admin_address", addressSlot), ("admin_is_multisig", flagSlot),
    ("pending_implementation", addressSlot), ("scheduled_activation_at", instantSlot)]

theorem isLeaf_of_mem_upgradeTable : ∀ e ∈ upgradeTable, e.2.IsLeaf := by
  simp only [upgradeTable, List.forall_mem_cons]
  exact ⟨isLeaf_secondsSlot, isLeaf_addressSlot, isLeaf_flagSlot, isLeaf_addressSlot,
    isLeaf_instantSlot, nofun⟩

theorem isRecord_upgrade : IsRecord upgrade UpgradeFacts.toValue upgradeTable where
  lawful e he := .leaf (isLeaf_of_mem_upgradeTable e he)
  reserved := by decide
  nodup := by decide
  toValue_eq _ := rfl
  names _ := rfl
  reads := by
    intro v u
    simp only [upgrade_eq_accepted_iff, givesUpgrade_iff, seconds_iff_slot, address_iff_slot,
      flag_iff_slot, instant_iff_slot, upgradeTable, List.forall_mem_cons, List.not_mem_nil, false_implies,
      implies_true, and_true]
    rfl
  complete := by
    intro es ds h
    simp only [upgradeTable, List.forall_mem_cons] at h
    obtain ⟨⟨n, -, hn⟩, ⟨a, -, ha⟩, ⟨m, -, hm⟩, ⟨p, -, hp⟩, ⟨i, -, hi⟩, -⟩ := h
    refine ⟨⟨n, a, m, p, i⟩, ?_⟩
    simp only [upgradeTable, List.map_cons, List.forall_mem_cons]
    exact ⟨hn, ha, hm, hp, hi, nofun⟩

def withdrawalTable : List (String × Slot) :=
  [("delay_seconds", secondsSlot), ("liquidity_balance", amountSlot),
    ("pending_withdrawals_total", amountSlot), ("emergency_mode", flagSlot),
    ("escape_hatch_enabled", flagSlot)]

theorem isLeaf_of_mem_withdrawalTable : ∀ e ∈ withdrawalTable, e.2.IsLeaf := by
  simp only [withdrawalTable, List.forall_mem_cons]
  exact ⟨isLeaf_secondsSlot, isLeaf_amountSlot, isLeaf_amountSlot, isLeaf_flagSlot, isLeaf_flagSlot,
    nofun⟩

theorem isRecord_withdrawal : IsRecord withdrawal WithdrawalFacts.toValue withdrawalTable where
  lawful e he := .leaf (isLeaf_of_mem_withdrawalTable e he)
  reserved := by decide
  nodup := by decide
  toValue_eq _ := rfl
  names _ := rfl
  reads := by
    intro v w
    simp only [withdrawal_eq_accepted_iff, givesWithdrawal_iff, seconds_iff_slot, amount_iff_slot,
      flag_iff_slot, withdrawalTable, List.forall_mem_cons, List.not_mem_nil, false_implies,
      implies_true, and_true]
    rfl
  complete := by
    intro es ds h
    simp only [withdrawalTable, List.forall_mem_cons] at h
    obtain ⟨⟨n, -, hn⟩, ⟨l, -, hl⟩, ⟨p, -, hp⟩, ⟨e, -, he⟩, ⟨f, -, hf⟩, -⟩ := h
    refine ⟨⟨n, l, p, e, f⟩, ?_⟩
    simp only [withdrawalTable, List.map_cons, List.forall_mem_cons]
    exact ⟨hn, hl, hp, he, hf, nofun⟩

def anchorTable : List (String × Slot) :=
  [("timestamp", givenInstantSlot), ("source_registry", registrySlot), ("state_root", textSlot)]

theorem isLeaf_of_mem_anchorTable : ∀ e ∈ anchorTable, e.2.IsLeaf := by
  simp only [anchorTable, List.forall_mem_cons]
  exact ⟨isLeaf_givenInstantSlot, isLeaf_registrySlot, isLeaf_textSlot, nofun⟩

theorem isRecord_anchor : IsRecord anchor AnchorFacts.toValue anchorTable where
  lawful e he := .leaf (isLeaf_of_mem_anchorTable e he)
  reserved := by decide
  nodup := by decide
  toValue_eq _ := rfl
  names _ := rfl
  reads := by
    intro v a
    simp only [anchor_eq_accepted_iff, givesAnchor_iff, givenInstant_iff_slot, registry_iff_slot,
      text_iff_slot, anchorTable, List.forall_mem_cons, List.not_mem_nil, false_implies,
      implies_true, and_true]
    rfl
  complete := by
    intro es ds h
    simp only [anchorTable, List.forall_mem_cons] at h
    obtain ⟨⟨i, -, hi⟩, ⟨s, -, hs⟩, ⟨r, -, hr⟩, -⟩ := h
    refine ⟨⟨i, s, r⟩, ?_⟩
    simp only [anchorTable, List.map_cons, List.forall_mem_cons]
    exact ⟨hi, hs, hr, nofun⟩

def oracleTable : List (String × Slot) :=
  [("primary_address", addressSlot), ("backup_address", addressSlot),
    ("freshness_bound_seconds", secondsSlot), ("last_update_at", instantSlot)]

theorem isLeaf_of_mem_oracleTable : ∀ e ∈ oracleTable, e.2.IsLeaf := by
  simp only [oracleTable, List.forall_mem_cons]
  exact ⟨isLeaf_addressSlot, isLeaf_addressSlot, isLeaf_secondsSlot, isLeaf_instantSlot, nofun⟩

theorem isRecord_oracle : IsRecord oracle OracleFacts.toValue oracleTable where
  lawful e he := .leaf (isLeaf_of_mem_oracleTable e he)
  reserved := by decide
  nodup := by decide
  toValue_eq _ := rfl
  names _ := rfl
  reads := by
    intro v o
    simp only [oracle_eq_accepted_iff, givesOracle_iff, address_iff_slot, seconds_iff_slot,
      instant_iff_slot, oracleTable, List.forall_mem_cons, List.not_mem_nil, false_implies,
      implies_true, and_true]
    rfl
  complete := by
    intro es ds h
    simp only [oracleTable, List.forall_mem_cons] at h
    obtain ⟨⟨p, -, hp⟩, ⟨b, -, hb⟩, ⟨n, -, hn⟩, ⟨i, -, hi⟩, -⟩ := h
    refine ⟨⟨p, b, n, i⟩, ?_⟩
    simp only [oracleTable, List.map_cons, List.forall_mem_cons]
    exact ⟨hp, hb, hn, hi, nofun⟩

end Reading
end RollupAudit
