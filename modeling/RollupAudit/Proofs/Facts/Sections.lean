import Mathlib.Tactic.MkIffOfInductiveProp
import RollupAudit.Proofs.Validation.Fields

/-!
# Sections of facts

A section is accepted exactly if it is a mapping with the names of its fields whose fields are
accepted one by one, each for the part of the section that it gives. The same holds of a snapshot.

**Results.**
* `Reading.operator_eq_accepted_iff` and those of the other sections: what a section is read from.
* `Facts.ofValue_eq_ok_iff`: what a snapshot is read from.
-/

namespace RollupAudit
namespace Reading

open Fields

variable {v : Value}

/-- That the fields of a mapping give a sequencer or proposer set. -/
@[mk_iff]
structure GivesOperator (es : Entries) (o : OperatorFacts) : Prop where
  addresses : optional es "addresses" [] addresses = .accepted o.addresses
  backups : optional es "backup_addresses" [] Reading.addresses = .accepted o.backups
  rotationPolicy : field es "rotation_policy" policyText = .accepted o.rotationPolicy
  lastActivity : field es "last_activity_at" instant = .accepted o.lastActivity
  forceInclusion : (field es "force_inclusion_enabled" (scalar Scalar.readFlag) : Check _) =
    .accepted o.forceInclusion
  permissionlessFallback : (field es "permissionless_fallback" (scalar Scalar.readFlag) : Check _) =
    .accepted o.permissionlessFallback

/-- A sequencer or proposer section is read field by field. -/
theorem operator_eq_accepted_iff
    {o : OperatorFacts} :
    operator v = .accepted o ↔
      ∃ es, v = .mapping es ∧ HasFields operatorFields es ∧ GivesOperator es o := by
  rw [operator, readSection_eq_accepted_iff]
  simp only [Checked.functor_map_eq, Checked.seq_eq, Checked.ap_eq_accepted_iff,
    Checked.map_eq_accepted_iff, exists_and_left, exists_exists_and_eq_and, and_assoc, ↓existsAndEq,
    true_and]
  constructor
  · rintro ⟨es, rfl, hfields, _, haddresses, _, hbackups, _, hpolicy, _, hactivity, _, hforce, _,
      hfallback, rfl⟩
    exact ⟨es, rfl, hfields, haddresses, hbackups, hpolicy, hactivity, hforce, hfallback⟩
  · rintro ⟨es, rfl, hfields, haddresses, hbackups, hpolicy, hactivity, hforce, hfallback⟩
    exact ⟨es, rfl, hfields, _, haddresses, _, hbackups, _, hpolicy, _, hactivity, _, hforce, _,
      hfallback, rfl⟩

/-- That the fields of a mapping give upgrade facts. -/
@[mk_iff]
structure GivesUpgrade (es : Entries) (u : UpgradeFacts) : Prop where
  delaySeconds : (field es "delay_seconds" (scalar Scalar.readNat) : Check _) =
    .accepted u.delaySeconds
  admin : field es "admin_address" address = .accepted u.admin
  adminIsMultisig : (field es "admin_is_multisig" (scalar Scalar.readFlag) : Check _) =
    .accepted u.adminIsMultisig
  pendingImplementation : field es "pending_implementation" address =
    .accepted u.pendingImplementation
  scheduledActivation : field es "scheduled_activation_at" instant =
    .accepted u.scheduledActivation

/-- An upgrade section is read field by field. -/
theorem upgrade_eq_accepted_iff
    {u : UpgradeFacts} :
    upgrade v = .accepted u ↔
      ∃ es, v = .mapping es ∧ HasFields upgradeFields es ∧ GivesUpgrade es u := by
  rw [upgrade, readSection_eq_accepted_iff]
  simp only [Checked.functor_map_eq, Checked.seq_eq, Checked.ap_eq_accepted_iff,
    Checked.map_eq_accepted_iff, exists_and_left, exists_exists_and_eq_and, and_assoc, ↓existsAndEq,
    true_and]
  constructor
  · rintro ⟨es, rfl, hfields, _, hdelay, _, hadmin, _, hmultisig, _, hpending, _, hscheduled, rfl⟩
    exact ⟨es, rfl, hfields, hdelay, hadmin, hmultisig, hpending, hscheduled⟩
  · rintro ⟨es, rfl, hfields, hdelay, hadmin, hmultisig, hpending, hscheduled⟩
    exact ⟨es, rfl, hfields, _, hdelay, _, hadmin, _, hmultisig, _, hpending, _, hscheduled, rfl⟩

/-- That the fields of a mapping give withdrawal facts. -/
@[mk_iff]
structure GivesWithdrawal (es : Entries) (w : WithdrawalFacts) : Prop where
  delaySeconds : (field es "delay_seconds" (scalar Scalar.readNat) : Check _) =
    .accepted w.delaySeconds
  liquidity : (field es "liquidity_balance" (scalar Scalar.readAmount) : Check _) =
    .accepted w.liquidity
  pendingTotal : (field es "pending_withdrawals_total" (scalar Scalar.readAmount) : Check _) =
    .accepted w.pendingTotal
  emergencyMode : (field es "emergency_mode" (scalar Scalar.readFlag) : Check _) =
    .accepted w.emergencyMode
  escapeHatch : (field es "escape_hatch_enabled" (scalar Scalar.readFlag) : Check _) =
    .accepted w.escapeHatch

/-- A withdrawal section is read field by field. -/
theorem withdrawal_eq_accepted_iff
    {w : WithdrawalFacts} :
    withdrawal v = .accepted w ↔
      ∃ es, v = .mapping es ∧ HasFields withdrawalFields es ∧ GivesWithdrawal es w := by
  rw [withdrawal, readSection_eq_accepted_iff]
  simp only [Checked.functor_map_eq, Checked.seq_eq, Checked.ap_eq_accepted_iff,
    Checked.map_eq_accepted_iff, exists_and_left, exists_exists_and_eq_and, and_assoc, ↓existsAndEq,
    true_and]
  constructor
  · rintro ⟨es, rfl, hfields, _, hdelay, _, hliquidity, _, hpending, _, hemergency, _, hescape, rfl⟩
    exact ⟨es, rfl, hfields, hdelay, hliquidity, hpending, hemergency, hescape⟩
  · rintro ⟨es, rfl, hfields, hdelay, hliquidity, hpending, hemergency, hescape⟩
    exact ⟨es, rfl, hfields, _, hdelay, _, hliquidity, _, hpending, _, hemergency, _, hescape, rfl⟩

/-- That the fields of a mapping give an anchor. -/
@[mk_iff]
structure GivesAnchor (es : Entries) (a : AnchorFacts) : Prop where
  timestamp : required es "timestamp" instant = .accepted a.timestamp
  sourceRegistry : optional es "source_registry" "" stripped = .accepted a.sourceRegistry
  stateRoot : (field es "state_root" (scalar Scalar.readText) : Check _) = .accepted a.stateRoot

/-- An anchor section is read field by field. -/
theorem anchor_eq_accepted_iff
    {a : AnchorFacts} :
    anchor v = .accepted a ↔
      ∃ es, v = .mapping es ∧ HasFields anchorFields es ∧ GivesAnchor es a := by
  rw [anchor, readSection_eq_accepted_iff]
  simp only [Checked.functor_map_eq, Checked.seq_eq, Checked.ap_eq_accepted_iff,
    Checked.map_eq_accepted_iff, exists_and_left, exists_exists_and_eq_and, and_assoc, ↓existsAndEq,
    true_and]
  constructor
  · rintro ⟨es, rfl, hfields, _, htimestamp, _, hregistry, _, hroot, rfl⟩
    exact ⟨es, rfl, hfields, htimestamp, hregistry, hroot⟩
  · rintro ⟨es, rfl, hfields, htimestamp, hregistry, hroot⟩
    exact ⟨es, rfl, hfields, _, htimestamp, _, hregistry, _, hroot, rfl⟩

/-- That the fields of a mapping give an oracle. -/
@[mk_iff]
structure GivesOracle (es : Entries) (o : OracleFacts) : Prop where
  primary : field es "primary_address" address = .accepted o.primary
  backup : field es "backup_address" address = .accepted o.backup
  freshnessBoundSeconds : (field es "freshness_bound_seconds" (scalar Scalar.readNat) : Check _) =
    .accepted o.freshnessBoundSeconds
  lastUpdate : field es "last_update_at" instant = .accepted o.lastUpdate

/-- An oracle section is read field by field. -/
theorem oracle_eq_accepted_iff
    {o : OracleFacts} :
    oracle v = .accepted o ↔
      ∃ es, v = .mapping es ∧ HasFields oracleFields es ∧ GivesOracle es o := by
  rw [oracle, readSection_eq_accepted_iff]
  simp only [Checked.functor_map_eq, Checked.seq_eq, Checked.ap_eq_accepted_iff,
    Checked.map_eq_accepted_iff, exists_and_left, exists_exists_and_eq_and, and_assoc, ↓existsAndEq,
    true_and]
  constructor
  · rintro ⟨es, rfl, hfields, _, hprimary, _, hbackup, _, hbound, _, hupdate, rfl⟩
    exact ⟨es, rfl, hfields, hprimary, hbackup, hbound, hupdate⟩
  · rintro ⟨es, rfl, hfields, hprimary, hbackup, hbound, hupdate⟩
    exact ⟨es, rfl, hfields, _, hprimary, _, hbackup, _, hbound, _, hupdate, rfl⟩

/-- That the fields of a mapping give a snapshot. -/
@[mk_iff]
structure GivesFacts (es : Entries) (f : Facts) : Prop where
  version : optional es "schema_version" (Int.ofNat formVersion) version = .accepted f.version
  chainId : required es "chain_id" chainId = .accepted f.chainId
  observedAt : required es "observed_at" instant = .accepted f.observedAt
  sequencer : field es "sequencer" operator = .accepted f.sequencer
  proposer : field es "proposer" operator = .accepted f.proposer
  upgrade : field es "upgrade" upgrade = .accepted f.upgrade
  withdrawal : field es "withdrawal" withdrawal = .accepted f.withdrawal
  anchor : field es "anchor" anchor = .accepted f.anchor
  oracle : field es "oracle" oracle = .accepted f.oracle
  parameters : (optional es "parameters" [] Parameter.readAll : Check _) = .accepted f.parameters

/-- The fields of a snapshot are read one by one. -/
theorem factsOfEntries_eq_accepted_iff
    {es : Entries} {f : Facts} :
    factsOfEntries es = .accepted f ↔ GivesFacts es f := by
  unfold factsOfEntries
  simp only [Checked.functor_map_eq, Checked.seq_eq, Checked.ap_eq_accepted_iff,
    Checked.map_eq_accepted_iff, exists_and_left, exists_exists_and_eq_and, and_assoc, ↓existsAndEq,
    true_and]
  constructor
  · rintro ⟨_, hversion, _, hchain, _, hobserved, _, hsequencer, _, hproposer, _, hupgrade, _,
      hwithdrawal, _, hanchor, _, horacle, _, hparameters, rfl⟩
    exact ⟨hversion, hchain, hobserved, hsequencer, hproposer, hupgrade, hwithdrawal, hanchor,
      horacle, hparameters⟩
  · rintro ⟨hversion, hchain, hobserved, hsequencer, hproposer, hupgrade, hwithdrawal, hanchor,
      horacle, hparameters⟩
    exact ⟨_, hversion, _, hchain, _, hobserved, _, hsequencer, _, hproposer, _, hupgrade, _,
      hwithdrawal, _, hanchor, _, horacle, _, hparameters, rfl⟩

end Reading

/-- A snapshot is read from a mapping with the names of its fields, field by field. -/
theorem Facts.ofValue_eq_ok_iff
    {v : Value} {f : Facts} :
    Facts.ofValue v = .ok f ↔ ∃ es, v = .mapping es ∧ Reading.HasFields Reading.factsFields es ∧
      Reading.GivesFacts es f := by
  cases v with
  | mapping es =>
    simp [ofValue, Reading.finish_eq_ok_iff, Reading.fields_eq_accepted_iff,
      Reading.factsOfEntries_eq_accepted_iff]
  | _ => simp [ofValue]

end RollupAudit
