import RollupAudit.Proofs.Facts.ParameterSlots
import RollupAudit.Proofs.Facts.SectionSlots

/-!
# Slots of a snapshot

A snapshot is a record: its own fields are leaves, its sections and its parameters are nodes of
leaves. A section that nothing is given for has its fields at their defaults.

**Results.**
* `Reading.isRecord_snapshot`: a snapshot is a record.
* `Reading.shallow_of_mem_factsTable`: the slots of a snapshot are leaves or nodes of leaves.
-/

namespace RollupAudit

open Fields Value

namespace Slot

variable {S : Slot} {L : Layout} {path : List String} {part : String} {v : Value} {x y : Option Value}

/-- What an override below a part leaves of the other parts: what is held of them, or what their
slots hold where nothing is given. -/
theorem IsNode.others_of_overrides
    (h : IsNode S L)
    (hslots : ∀ name, Settled (L.slot name))
    (hheld : S x x)
    (hxy : Overrides S (part :: path) v x y) :
    ∃ ds, y = some (.mapping ds) ∧ ∀ name, name ≠ part →
      (∃ es, x = some (.mapping es) ∧ lookup? name ds = lookup? name es) ∨
        ((∀ es, x ≠ some (.mapping es)) ∧ L.slot name none (lookup? name ds)) := by
  obtain ⟨es, ds, hopened, rfl, hpart⟩ := h.overrides_cons_iff.mp hxy
  refine ⟨ds, rfl, fun name hname => ?_⟩
  have hother := hpart.others name hname
  match x, hopened with
  | none, rfl => exact .inr ⟨by simp, hother⟩
  | some .null, rfl => exact .inr ⟨by simp, hother⟩
  | some (.mapping es), rfl =>
    obtain ⟨_, ⟨⟩, -, -, hholds⟩ := h.mapping.mp hheld
    exact .inl ⟨es, rfl, (hslots name).functional hother (hholds name)⟩

/-- A leaf, or a node of leaves that holds certain entries where nothing is given. -/
inductive Shallow (defaults : Entries) : Slot → Prop
  | leaf {S : Slot} (h : IsLeaf S) : Shallow defaults S
  | node {S : Slot} {L : Layout} (h : IsNode S L) (hslots : ∀ name, IsLeaf (L.slot name))
      (hdefaults : ∀ name y, L.slot name none y → y = lookup? name defaults) : Shallow defaults S

/-- The entries of a mapping, and certain others where no mapping is. -/
def entriesOr (defaults : Entries) : Option Value → Entries
  | some (.mapping es) => es
  | _ => defaults

/-- An override below a node of leaves ends at a leaf, and leaves the other leaves as they are held or
at their defaults. -/
theorem Shallow.others_of_overrides
    {defaults : Entries}
    (h : Shallow defaults S)
    (hheld : S x x)
    (hxy : Overrides S (part :: path) v x y) :
    path = [] ∧ ∃ ds, y = some (.mapping ds) ∧
      ∀ name, name ≠ part → lookup? name ds = lookup? name (entriesOr defaults x) := by
  cases h with
  | leaf h => exact absurd hxy h.not_overrides_cons
  | node h hslots hdefaults =>
    constructor
    · obtain ⟨_, _, -, -, hpart⟩ := h.overrides_cons_iff.mp hxy
      cases path with
      | nil => rfl
      | cons next path => exact absurd hpart.overridden (hslots part).not_overrides_cons
    · obtain ⟨ds, hy, hothers⟩ := h.others_of_overrides (fun name => (hslots name).toSettled) hheld hxy
      refine ⟨ds, hy, fun name hname => ?_⟩
      rcases hothers name hname with ⟨es, rfl, hsame⟩ | ⟨habsent, hnone⟩
      · exact hsame
      · have hentries : entriesOr defaults x = defaults := by
          unfold entriesOr
          split
          · exact absurd rfl (habsent _)
          · rfl
        rw [hentries]
        exact hdefaults name _ hnone

end Slot

namespace Reading

/-! ## The snapshot as a record -/

/-- A snapshot, with whatever is wrong as one error. -/
def snapshot (v : Value) : Check Facts :=
  match Facts.ofValue v with
  | .ok f => .accepted f
  | .error e => .aborted e

theorem snapshot_eq_accepted_iff
    {v : Value} {f : Facts} :
    snapshot v = .accepted f ↔ Facts.ofValue v = .ok f := by
  unfold snapshot
  cases Facts.ofValue v <;> simp

def versionSlot : Slot := slot (some (Int.ofNat formVersion)) version .int

theorem isLeaf_versionSlot : versionSlot.IsLeaf := by
  refine isLeaf_slot faithful_version ?_ nofun
  rintro _ ⟨⟩
  rfl

def chainIdSlot : Slot := slot none chainId .text

theorem isLeaf_chainIdSlot : chainIdSlot.IsLeaf :=
  isLeaf_slot faithful_chainId (by simp) nofun

def operatorSlot : Slot := nullableSlot operator OperatorFacts.toValue

def upgradeSlot : Slot := nullableSlot upgrade UpgradeFacts.toValue

def withdrawalSlot : Slot := nullableSlot withdrawal WithdrawalFacts.toValue

def anchorSlot : Slot := nullableSlot anchor AnchorFacts.toValue

def oracleSlot : Slot := nullableSlot oracle OracleFacts.toValue

def factsTable : List (String × Slot) :=
  [("schema_version", versionSlot), ("chain_id", chainIdSlot), ("observed_at", givenInstantSlot),
    ("sequencer", operatorSlot), ("proposer", operatorSlot), ("upgrade", upgradeSlot),
    ("withdrawal", withdrawalSlot), ("anchor", anchorSlot), ("oracle", oracleSlot),
    ("parameters", Parameter.parametersSlot)]

theorem section_iff_slot
    {α : Type} {read : Value → Check α} {toValue : α → Value} {table : List (String × Slot)}
    (h : IsRecord read toValue table)
    {es : Entries} {name : String} {o : Option α} :
    field es name read = .accepted o ↔
      nullableSlot read toValue (lookup? name es) (some (ofOption toValue o)) :=
  field_iff_slot h.faithful h.toValue_ne_null

theorem isRecord_snapshot : IsRecord snapshot Facts.toValue factsTable where
  lawful := by
    simp only [factsTable, List.forall_mem_cons]
    exact ⟨.leaf isLeaf_versionSlot, .leaf isLeaf_chainIdSlot, .leaf isLeaf_givenInstantSlot,
      isRecord_operator.lawful_nullableSlot, isRecord_operator.lawful_nullableSlot,
      isRecord_upgrade.lawful_nullableSlot, isRecord_withdrawal.lawful_nullableSlot,
      isRecord_anchor.lawful_nullableSlot, isRecord_oracle.lawful_nullableSlot,
      Parameter.lawful_parametersSlot, nofun⟩
  reserved := by decide
  nodup := by decide
  toValue_eq _ := rfl
  names _ := rfl
  reads := by
    intro v f
    simp only [snapshot_eq_accepted_iff, Facts.ofValue_eq_ok_iff, givesFacts_iff,
      optional_iff_slot faithful_version (show version (.int (Int.ofNat formVersion)) = _ from rfl),
      required_iff_slot faithful_chainId, givenInstant_iff_slot,
      section_iff_slot isRecord_operator, section_iff_slot isRecord_upgrade,
      section_iff_slot isRecord_withdrawal, section_iff_slot isRecord_anchor,
      section_iff_slot isRecord_oracle,
      optional_iff_slot Parameter.faithful_parameters (Parameter.readAll_nil [] rfl),
      factsTable, List.forall_mem_cons, List.not_mem_nil, false_implies, implies_true, and_true]
    rfl
  complete := by
    intro es ds h
    simp only [factsTable, List.forall_mem_cons] at h
    obtain ⟨⟨n, -, hn⟩, ⟨c, -, hc⟩, ⟨i, -, hi⟩, ⟨s, -, hs⟩, ⟨p, -, hp⟩, ⟨u, -, hu⟩, ⟨w, -, hw⟩,
      ⟨a, -, ha⟩, ⟨o, -, ho⟩, ⟨ps, -, hps⟩, -⟩ := h
    refine ⟨⟨n, c, i, s, p, u, w, a, o, ps⟩, ?_⟩
    simp only [factsTable, List.map_cons, List.forall_mem_cons]
    exact ⟨hn, hc, hi, hs, hp, hu, hw, ha, ho, hps, nofun⟩

def snapshotSlot : Slot := slot none snapshot Facts.toValue

/-! ## Defaults -/

/-- The fields of a part of a snapshot where nothing is given for them. The time of an anchor has to
be given, and there are no parameters. -/
def defaultEntries : String → Entries
  | "sequencer" => entriesOf (OperatorFacts.toValue {})
  | "proposer" => entriesOf (OperatorFacts.toValue {})
  | "upgrade" => entriesOf (UpgradeFacts.toValue {})
  | "withdrawal" => entriesOf (WithdrawalFacts.toValue {})
  | "anchor" => [(.text "source_registry", .text ""), (.text "state_root", .null)]
  | "oracle" => entriesOf (OracleFacts.toValue {})
  | _ => []

variable {α : Type} {read : Value → Check α} {toValue : α → Value} {default : Option α}
  {table : List (String × Slot)} {y : Option Value}

theorem eq_of_nullableSlot_none
    (h : nullableSlot read toValue none y) :
    y = some .null := by
  obtain ⟨_, ⟨-, ⟨⟩⟩ | ⟨_, ⟨⟩, -⟩, rfl⟩ := h
  rfl

theorem eq_of_slot_none
    {d : α}
    (h : slot (some d) read toValue none y) :
    y = some (toValue d) := by
  obtain ⟨_, ⟨-, ⟨⟩⟩ | ⟨_, ⟨⟩, -⟩, rfl⟩ := h
  rfl

theorem not_slot_none
    (h : slot none read toValue none y) :
    False := by
  obtain ⟨_, ⟨-, ⟨⟩⟩ | ⟨_, ⟨⟩, -⟩, -⟩ := h

/-- A record that may be left out is a node of leaves, if its fields are. -/
theorem IsRecord.shallow
    (h : IsRecord read toValue table)
    {defaults : Entries}
    (hleaf : ∀ e ∈ table, e.2.IsLeaf)
    (hfields : HasFields (table.map Prod.fst) defaults)
    (hdefaults : ∀ e ∈ table, ∀ y, e.2 none y → y = lookup? e.1 defaults) :
    Slot.Shallow defaults (nullableSlot read toValue) := by
  refine .node h.isNode_nullableSlot (fun name => ?_) fun name y hy => ?_
  · show (slotIn table name).IsLeaf
    by_cases hname : name ∈ table.map Prod.fst
    · obtain ⟨e, he, rfl⟩ := List.mem_map.mp hname
      rw [slotIn_of_mem h.nodup he]
      exact hleaf e he
    · rw [slotIn_of_not_mem hname]
      exact isLeaf_noSlot
  · change slotIn table name none y at hy
    by_cases hname : name ∈ table.map Prod.fst
    · obtain ⟨e, he, rfl⟩ := List.mem_map.mp hname
      rw [slotIn_of_mem h.nodup he] at hy
      exact hdefaults e he y hy
    · rw [slotIn_of_not_mem hname] at hy
      rw [hy.2, lookup?_eq_none_of_hasFields h.reserved hfields hname]

theorem shallow_operatorSlot : operatorSlot.Shallow (entriesOf (OperatorFacts.toValue {})) := by
  refine isRecord_operator.shallow isLeaf_of_mem_operatorTable
    (hasFields_of_map_fst_eq isRecord_operator.reserved rfl) ?_
  simp only [operatorTable, List.forall_mem_cons, List.not_mem_nil, false_implies, implies_true,
    and_true]
  exact ⟨fun _ => eq_of_slot_none, fun _ => eq_of_slot_none, fun _ => eq_of_nullableSlot_none,
    fun _ => eq_of_nullableSlot_none, fun _ => eq_of_nullableSlot_none,
    fun _ => eq_of_nullableSlot_none⟩

theorem shallow_upgradeSlot : upgradeSlot.Shallow (entriesOf (UpgradeFacts.toValue {})) := by
  refine isRecord_upgrade.shallow isLeaf_of_mem_upgradeTable
    (hasFields_of_map_fst_eq isRecord_upgrade.reserved rfl) ?_
  simp only [upgradeTable, List.forall_mem_cons, List.not_mem_nil, false_implies, implies_true,
    and_true]
  exact ⟨fun _ => eq_of_nullableSlot_none, fun _ => eq_of_nullableSlot_none,
    fun _ => eq_of_nullableSlot_none, fun _ => eq_of_nullableSlot_none,
    fun _ => eq_of_nullableSlot_none⟩

theorem shallow_withdrawalSlot :
    withdrawalSlot.Shallow (entriesOf (WithdrawalFacts.toValue {})) := by
  refine isRecord_withdrawal.shallow isLeaf_of_mem_withdrawalTable
    (hasFields_of_map_fst_eq isRecord_withdrawal.reserved rfl) ?_
  simp only [withdrawalTable, List.forall_mem_cons, List.not_mem_nil, false_implies, implies_true,
    and_true]
  exact ⟨fun _ => eq_of_nullableSlot_none, fun _ => eq_of_nullableSlot_none,
    fun _ => eq_of_nullableSlot_none, fun _ => eq_of_nullableSlot_none,
    fun _ => eq_of_nullableSlot_none⟩

theorem shallow_anchorSlot : anchorSlot.Shallow (defaultEntries "anchor") := by
  refine isRecord_anchor.shallow isLeaf_of_mem_anchorTable
    ((hasFields_iff isRecord_anchor.reserved).mpr ?_) ?_
  · simp [defaultEntries, anchorTable]
  · simp only [anchorTable, List.forall_mem_cons, List.not_mem_nil, false_implies, implies_true,
    and_true]
    exact ⟨fun _ h => (not_slot_none h).elim, fun _ => eq_of_slot_none,
      fun _ => eq_of_nullableSlot_none⟩

theorem shallow_oracleSlot : oracleSlot.Shallow (entriesOf (OracleFacts.toValue {})) := by
  refine isRecord_oracle.shallow isLeaf_of_mem_oracleTable
    (hasFields_of_map_fst_eq isRecord_oracle.reserved rfl) ?_
  simp only [oracleTable, List.forall_mem_cons, List.not_mem_nil, false_implies, implies_true,
    and_true]
  exact ⟨fun _ => eq_of_nullableSlot_none, fun _ => eq_of_nullableSlot_none,
    fun _ => eq_of_nullableSlot_none, fun _ => eq_of_nullableSlot_none⟩

theorem shallow_parametersSlot : Parameter.parametersSlot.Shallow [] := by
  refine .node Parameter.isNode_parametersSlot (fun _ => Parameter.isLeaf_parameterSlot) ?_
  rintro name y (⟨-, rfl⟩ | h)
  · rfl
  · exact (not_slot_none h).elim

/-- The slots of a snapshot are leaves, or nodes of leaves with their defaults. -/
theorem shallow_of_mem_factsTable : ∀ e ∈ factsTable, e.2.Shallow (defaultEntries e.1) := by
  simp only [factsTable, List.forall_mem_cons, List.not_mem_nil, false_implies, implies_true,
    and_true]
  exact ⟨.leaf isLeaf_versionSlot, .leaf isLeaf_chainIdSlot, .leaf isLeaf_givenInstantSlot,
    shallow_operatorSlot, shallow_operatorSlot, shallow_upgradeSlot, shallow_withdrawalSlot,
    shallow_anchorSlot, shallow_oracleSlot, shallow_parametersSlot⟩

end Reading
end RollupAudit
