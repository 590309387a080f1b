import RollupAudit.Check.Anchor
import RollupAudit.Check.Operator
import RollupAudit.Check.Oracle
import RollupAudit.Check.Quantity
import RollupAudit.Check.Upgrade
import RollupAudit.Check.Withdrawal
import RollupAudit.Rule.Basic

/-!
# Built-in rules

The rules that every evaluation knows, in the order in which they are listed and run.
-/

namespace RollupAudit

/-- A built-in rule. -/
inductive Builtin
  | anchorFreshness
  | anchorSource
  | productionTested
  | documentation
  | externalAudit
  | sequencerFailover
  | sequencerLiveness
  | sequencerRotation
  | sequencerForceInclusion
  | proposerFailover
  | proposerLiveness
  | oracleBackup
  | oracleDistinct
  | oracleFreshnessBound
  | oracleStaleness
  | blockGasLimit
  | txRateLimit
  | confirmationDepth
  | exitWindow
  | exitWindowCoversWithdrawal
  | pendingActivation
  | adminMultisig
  | withdrawalDelay
  | withdrawalLiquidity
  | escapeHatch
  | emergencyMode
  deriving DecidableEq, Repr

namespace Builtin

/-- All built-in rules in their order. -/
def all : List Builtin := [
  .anchorFreshness, .anchorSource, .productionTested, .documentation, .externalAudit,
  .sequencerFailover, .sequencerLiveness, .sequencerRotation, .sequencerForceInclusion,
  .proposerFailover, .proposerLiveness, .oracleBackup, .oracleDistinct, .oracleFreshnessBound,
  .oracleStaleness, .blockGasLimit, .txRateLimit, .confirmationDepth, .exitWindow,
  .exitWindowCoversWithdrawal, .pendingActivation, .adminMultisig, .withdrawalDelay,
  .withdrawalLiquidity, .escapeHatch, .emergencyMode]

/-- The id of a rule. -/
def id : Builtin → String
  | .anchorFreshness => "anchor.freshness"
  | .anchorSource => "anchor.sourceRegistry"
  | .productionTested => "deployment.productionTested"
  | .documentation => "documentation.comprehensive"
  | .externalAudit => "proofSystem.externalAudit"
  | .sequencerFailover => "sequencer.failoverDefined"
  | .sequencerLiveness => "sequencer.liveness"
  | .sequencerRotation => "sequencer.rotationPolicy"
  | .sequencerForceInclusion => "sequencer.forceInclusion"
  | .proposerFailover => "proposer.failoverDefined"
  | .proposerLiveness => "proposer.liveness"
  | .oracleBackup => "oracle.backupConfigured"
  | .oracleDistinct => "oracle.distinctSources"
  | .oracleFreshnessBound => "oracle.freshnessBound"
  | .oracleStaleness => "oracle.staleness"
  | .blockGasLimit => "dos.blockGasLimit"
  | .txRateLimit => "dos.txRateLimit"
  | .confirmationDepth => "finality.confirmationDepth"
  | .exitWindow => "upgrade.exitWindow"
  | .exitWindowCoversWithdrawal => "upgrade.exitWindowCoversWithdrawal"
  | .pendingActivation => "upgrade.pendingActivation"
  | .adminMultisig => "access.adminMultisig"
  | .withdrawalDelay => "withdrawal.delayBound"
  | .withdrawalLiquidity => "withdrawal.liquidity"
  | .escapeHatch => "withdrawal.escapeHatch"
  | .emergencyMode => "emergency.modeActive"

/-- What a rule asks for. -/
def title : Builtin → String
  | .anchorFreshness => "Anchor state root is within the freshness bound"
  | .anchorSource => "Anchor root comes from a trusted registry"
  | .productionTested => "Deployment has been exercised in production"
  | .documentation => "Integration documentation is comprehensive"
  | .externalAudit => "Proof system has been externally audited"
  | .sequencerFailover => "A backup sequencer is configured"
  | .sequencerLiveness => "Sequencer has been active recently"
  | .sequencerRotation => "A single sequencer has a rotation policy"
  | .sequencerForceInclusion => "Users can force transaction inclusion through L1"
  | .proposerFailover => "State proposals survive the loss of the proposer"
  | .proposerLiveness => "State roots have been proposed recently"
  | .oracleBackup => "A backup oracle is configured"
  | .oracleDistinct => "Backup oracle differs from the primary"
  | .oracleFreshnessBound => "Oracle enforces a freshness bound"
  | .oracleStaleness => "Oracle data is within its own freshness bound"
  | .blockGasLimit => "Block gas limit stays within the DoS bound"
  | .txRateLimit => "Per-sender transaction rate limit is enforced"
  | .confirmationDepth => "L1 confirmation depth meets the minimum"
  | .exitWindow => "Upgrade delay leaves users a minimum exit window"
  | .exitWindowCoversWithdrawal => "Upgrade delay is at least the withdrawal delay"
  | .pendingActivation => "Pending upgrades are scheduled with enough notice"
  | .adminMultisig => "Upgrade admin is a multisig"
  | .withdrawalDelay => "Withdrawal delay stays within the maximum"
  | .withdrawalLiquidity => "Withdrawal liquidity covers pending withdrawals"
  | .escapeHatch => "An escape hatch lets users withdraw without the operator"
  | .emergencyMode => "Emergency mode is not active"

/-- The category of a rule. -/
def category : Builtin → Category
  | .anchorFreshness | .anchorSource => .anchor
  | .productionTested => .deployment
  | .documentation => .documentation
  | .externalAudit => .proofSystem
  | .sequencerFailover | .sequencerLiveness | .sequencerRotation | .sequencerForceInclusion =>
    .sequencer
  | .proposerFailover | .proposerLiveness => .proposer
  | .oracleBackup | .oracleDistinct | .oracleFreshnessBound | .oracleStaleness => .oracle
  | .blockGasLimit | .txRateLimit => .dos
  | .confirmationDepth => .finality
  | .exitWindow | .exitWindowCoversWithdrawal | .pendingActivation => .upgrade
  | .adminMultisig => .access
  | .withdrawalDelay | .withdrawalLiquidity | .escapeHatch => .withdrawal
  | .emergencyMode => .emergency

/-- The severity of a rule. -/
def severity : Builtin → Severity
  | .documentation => .info
  | .productionTested | .sequencerRotation => .low
  | .anchorSource | .externalAudit | .proposerLiveness | .oracleDistinct | .oracleFreshnessBound
  | .blockGasLimit | .txRateLimit | .pendingActivation | .withdrawalDelay => .medium
  | .anchorFreshness | .sequencerFailover | .sequencerLiveness | .sequencerForceInclusion
  | .proposerFailover | .oracleBackup | .oracleStaleness | .confirmationDepth | .exitWindow
  | .exitWindowCoversWithdrawal | .adminMultisig | .withdrawalLiquidity | .escapeHatch => .high
  | .emergencyMode => .critical

/-- What the policy can set for a rule. -/
def model : Builtin → ConfigModel
  | .anchorFreshness => .anchorFreshness
  | .anchorSource => .anchorSource
  | .sequencerLiveness => .sequencerLiveness
  | .proposerLiveness => .proposerLiveness
  | .oracleFreshnessBound => .oracleFreshnessBound
  | .blockGasLimit => .blockGasLimit
  | .txRateLimit => .txRateLimit
  | .confirmationDepth => .confirmationDepth
  | .exitWindow => .exitWindow
  | .pendingActivation => .pendingUpgrade
  | .withdrawalDelay => .withdrawalDelay
  | .withdrawalLiquidity => .withdrawalLiquidity
  | .productionTested | .documentation | .externalAudit | .sequencerFailover | .sequencerRotation
  | .sequencerForceInclusion | .proposerFailover | .oracleBackup | .oracleDistinct
  | .oracleStaleness | .exitWindowCoversWithdrawal | .adminMultisig | .escapeHatch
  | .emergencyMode => .plain

/-- The check of a rule with the constants of its model. -/
def check : (b : Builtin) → b.model.Values → Facts → CheckResult
  | .anchorFreshness, ((bound : Nat), _), f => Check.anchorFreshness bound f
  | .anchorSource, ((trusted : List String), _), f => .ok (Check.anchorSource trusted f)
  | .productionTested, _, _ =>
    .ok (Check.attestation "the deployment has run in production under realistic load")
  | .documentation, _, _ =>
    .ok (Check.attestation
      "documentation covers trust assumptions, upgrade paths and exit procedures")
  | .externalAudit, _, _ =>
    .ok (Check.attestation "an independent audit of the fraud/validity proof system")
  | .sequencerFailover, _, f => .ok (Check.sequencerFailover f)
  | .sequencerLiveness, ((bound : Nat), _), f => Check.sequencerLiveness bound f
  | .sequencerRotation, _, f => .ok (Check.sequencerRotation f)
  | .sequencerForceInclusion, _, f => .ok (Check.sequencerForceInclusion f)
  | .proposerFailover, _, f => .ok (Check.proposerFailover f)
  | .proposerLiveness, ((bound : Nat), _), f => Check.proposerLiveness bound f
  | .oracleBackup, _, f => .ok (Check.oracleBackup f)
  | .oracleDistinct, _, f => .ok (Check.oracleDistinct f)
  | .oracleFreshnessBound, ((maximum : Nat), _), f => Check.oracleFreshnessBound maximum f
  | .oracleStaleness, _, f => Check.oracleStaleness f
  | .blockGasLimit, ((name : String), (maximum : Nat), _), f => Check.blockGasLimit name maximum f
  | .txRateLimit, ((name : String), (maximum : Nat), _), f => Check.txRateLimit name maximum f
  | .confirmationDepth, ((name : String), (minimum : Nat), _), f =>
    Check.confirmationDepth name minimum f
  | .exitWindow, ((minimum : Nat), (critical : Nat), _), f => Check.exitWindow minimum critical f
  | .exitWindowCoversWithdrawal, _, f => Check.exitWindowCoversWithdrawal f
  | .pendingActivation, ((notice : Nat), _), f => Check.pendingActivation notice f
  | .adminMultisig, _, f => .ok (Check.adminMultisig f)
  | .withdrawalDelay, ((maximum : Nat), _), f => Check.withdrawalDelay maximum f
  | .withdrawalLiquidity, ((ratio : Decimal), _), f => Check.withdrawalLiquidity ratio f
  | .escapeHatch, _, f => .ok (Check.escapeHatch f)
  | .emergencyMode, _, f => .ok (Check.emergencyMode f)

/-- The name of a rule in the catalogue. -/
def className : Builtin → String
  | .anchorFreshness => "ANCHOR_FRESHNESS"
  | .anchorSource => "ANCHOR_SOURCE_REGISTRY"
  | .productionTested => "DEPLOYMENT_PRODUCTION_TESTED"
  | .documentation => "DOCUMENTATION_COMPREHENSIVE"
  | .externalAudit => "PROOF_SYSTEM_EXTERNAL_AUDIT"
  | .sequencerFailover => "SEQUENCER_FAILOVER_DEFINED"
  | .sequencerLiveness => "SEQUENCER_LIVENESS"
  | .sequencerRotation => "SEQUENCER_ROTATION_POLICY"
  | .sequencerForceInclusion => "SEQUENCER_FORCE_INCLUSION"
  | .proposerFailover => "PROPOSER_FAILOVER_DEFINED"
  | .proposerLiveness => "PROPOSER_LIVENESS"
  | .oracleBackup => "ORACLE_BACKUP_CONFIGURED"
  | .oracleDistinct => "ORACLE_DISTINCT_SOURCES"
  | .oracleFreshnessBound => "ORACLE_FRESHNESS_BOUND"
  | .oracleStaleness => "ORACLE_STALENESS"
  | .blockGasLimit => "DOS_BLOCK_GAS_LIMIT"
  | .txRateLimit => "DOS_TX_RATE_LIMIT"
  | .confirmationDepth => "FINALITY_CONFIRMATION_DEPTH"
  | .exitWindow => "UPGRADE_EXIT_WINDOW"
  | .exitWindowCoversWithdrawal => "UPGRADE_EXIT_WINDOW_COVERS_WITHDRAWAL"
  | .pendingActivation => "UPGRADE_PENDING_ACTIVATION"
  | .adminMultisig => "ACCESS_ADMIN_MULTISIG"
  | .withdrawalDelay => "WITHDRAWAL_DELAY_BOUND"
  | .withdrawalLiquidity => "WITHDRAWAL_LIQUIDITY"
  | .escapeHatch => "WITHDRAWAL_ESCAPE_HATCH"
  | .emergencyMode => "EMERGENCY_MODE_ACTIVE"

/-- The group of rules that a rule is listed with in the catalogue. -/
def group : Builtin → String
  | .anchorFreshness | .anchorSource => "anchor"
  | .productionTested | .documentation | .externalAudit => "attestation"
  | .sequencerFailover | .sequencerLiveness | .sequencerRotation | .sequencerForceInclusion
  | .proposerFailover | .proposerLiveness => "operators"
  | .oracleBackup | .oracleDistinct | .oracleFreshnessBound | .oracleStaleness => "oracle"
  | .blockGasLimit | .txRateLimit | .confirmationDepth => "parameters"
  | .exitWindow | .exitWindowCoversWithdrawal | .pendingActivation | .adminMultisig => "upgrade"
  | .withdrawalDelay | .withdrawalLiquidity | .escapeHatch | .emergencyMode => "withdrawal"

/-- The kind of a built-in rule. -/
def kind (b : Builtin) : RuleKind where
  id := b.id
  title := b.title
  category := some b.category
  defaultSeverity := b.severity
  model := b.model
  check := fun values f => .ofCheck (b.check values f)
  moduleName := "common.lint_engine.rules." ++ b.group
  className := b.className

/-- The built-in rule with an id. -/
def ofId? (s : String) : Option Builtin := all.find? fun b => b.id == s

/-- The rule with a configuration. -/
def rule (b : Builtin) (config : RuleConfig b.model) : Rule where
  id := b.id
  title := b.title
  category := b.category
  defaultSeverity := b.severity
  model := b.model
  config := config
  check := fun f => .ofCheck (b.check config.values f)
  moduleName := "common.lint_engine.rules." ++ b.group
  className := b.className

/-- The kinds of all built-in rules. -/
def kinds : List RuleKind := all.map kind

theorem mem_all (b : Builtin) : b ∈ all := by cases b <;> decide

theorem nodup_map_id_all : (all.map id).Nodup := by decide +kernel

/-- The kind of a built-in rule makes the rule. -/
@[simp] theorem rule_kind (b : Builtin) (config : RuleConfig b.model) :
    b.kind.rule config = .ok (b.rule config) := by
  cases b <;> rfl

end Builtin
end RollupAudit
