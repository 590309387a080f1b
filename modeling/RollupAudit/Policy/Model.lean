import RollupAudit.Policy.Constant
import RollupAudit.Report.Outcome

/-!
# Rule configurations

Every rule can be switched off and given a severity by the policy. The rules that compare facts
with constants take these from the policy too; a configuration model lists the constants of a rule.
-/

namespace RollupAudit

/-- What the policy can set for a rule besides the switch and the severity. -/
inductive ConfigModel
  | plain
  | anchorFreshness
  | anchorSource
  | exitWindow
  | pendingUpgrade
  | sequencerLiveness
  | proposerLiveness
  | withdrawalDelay
  | withdrawalLiquidity
  | oracleFreshnessBound
  | blockGasLimit
  | txRateLimit
  | confirmationDepth
  deriving DecidableEq, Repr

namespace ConfigModel

/-- The name of a model in the catalogue and in messages. -/
def name : ConfigModel → String
  | .plain => "RuleConfigBase"
  | .anchorFreshness => "AnchorFreshnessRuleConfig"
  | .anchorSource => "AnchorSourceRuleConfig"
  | .exitWindow => "ExitWindowRuleConfig"
  | .pendingUpgrade => "PendingUpgradeRuleConfig"
  | .sequencerLiveness => "LivenessRuleConfig"
  | .proposerLiveness => "ProposerLivenessRuleConfig"
  | .withdrawalDelay => "WithdrawalDelayRuleConfig"
  | .withdrawalLiquidity => "WithdrawalLiquidityRuleConfig"
  | .oracleFreshnessBound => "OracleFreshnessBoundRuleConfig"
  | .blockGasLimit => "BlockGasLimitRuleConfig"
  | .txRateLimit => "TxRateLimitRuleConfig"
  | .confirmationDepth => "ConfirmationDepthRuleConfig"

/-- A number of seconds given in days. -/
def days (n : Nat) : Nat := n * 86400

/-- A number of seconds given in hours. -/
def hours (n : Nat) : Nat := n * 3600

/-- A constant in seconds. -/
def secondsConstant (name : String) (default : Nat) : Constant := ⟨name, .seconds, default⟩

/-- A constant that names a parameter. -/
def parameterConstant (default : String) : Constant := ⟨"parameter_name", .parameterName, default⟩

/-- A constant that is a count. -/
def countConstant (name : String) (least default : Nat) : Constant := ⟨name, .count least, default⟩

/-- The constants of a model. -/
def constants : ConfigModel → List Constant
  | .plain => []
  | .anchorFreshness => [secondsConstant "freshness_bound_seconds" (days 180)]
  | .anchorSource => [⟨"trusted_registries", .names, ([] : List String)⟩]
  | .exitWindow =>
    [secondsConstant "minimum_delay_seconds" (days 3),
      secondsConstant "critical_below_seconds" (days 1)]
  | .pendingUpgrade => [secondsConstant "minimum_notice_seconds" (days 3)]
  | .sequencerLiveness => [secondsConstant "max_inactivity_seconds" (hours 1)]
  | .proposerLiveness => [secondsConstant "max_inactivity_seconds" (hours 24)]
  | .withdrawalDelay => [secondsConstant "maximum_delay_seconds" (days 14)]
  | .withdrawalLiquidity => [⟨"minimum_coverage_ratio", .ratio, Decimal.one⟩]
  | .oracleFreshnessBound => [secondsConstant "maximum_bound_seconds" (days 1)]
  | .blockGasLimit =>
    [parameterConstant "block_gas_limit", countConstant "maximum_block_gas" 0 30000000]
  | .txRateLimit =>
    [parameterConstant "max_txs_per_sender_per_block",
      countConstant "maximum_txs_per_sender_per_block" 1 100]
  | .confirmationDepth =>
    [parameterConstant "l1_confirmation_blocks", countConstant "minimum_confirmations" 0 12]

/-- The values of the constants of a model. -/
abbrev Values (m : ConfigModel) : Type := Constants m.constants

/-- Why values that are in order one by one do not go together. -/
def conflict? : (m : ConfigModel) → m.Values → Option String
  | .exitWindow, ((minimum : Nat), (critical : Nat), _) =>
    if minimum < critical then some "critical_below_seconds must not exceed minimum_delay_seconds"
    else none
  | _, _ => none

end ConfigModel

/-- What the policy sets for a rule with a model. -/
structure RuleConfig (m : ConfigModel) where
  enabled : Bool := true
  severity : Option Severity := none
  values : m.Values := Constants.defaults m.constants

namespace RuleConfig

variable {m : ConfigModel}

/-- The configuration of a rule that the policy says nothing about. -/
def default (m : ConfigModel) : RuleConfig m := {}

/-- The names of the fields of a configuration. -/
def fieldNames (m : ConfigModel) : List String :=
  ["enabled", "severity"] ++ m.constants.map Constant.name

/-- A configuration whose values go together. -/
def consistent {ε : Type} (c : RuleConfig m) : Checked ε (RuleConfig m) :=
  match m.conflict? c.values with
  | some text => .reject (.refused text)
  | none => .accepted c

/-- The configuration that the entries of a mapping set. -/
def ofEntries {ε : Type} (m : ConfigModel) (es : Entries) : Checked ε (RuleConfig m) :=
  let fields : Checked ε (RuleConfig m) :=
    RuleConfig.mk <$> Fields.optional es "enabled" true (Fields.scalar Scalar.readFlag)
      <*> Fields.field es "severity" Choice.severity
      <*> Constants.read m.constants es
  (Fields.andCheck fields (Fields.onlyFields (fieldNames m) es)).andThen consistent

/-- The configuration that a document value sets. -/
def ofValue {ε : Type} (m : ConfigModel) : Value → Checked ε (RuleConfig m) :=
  Fields.model m.name (ofEntries m)

/-- A configuration as a document value. -/
def toValue (c : RuleConfig m) : Value :=
  .mapping ([(.text "enabled", .bool c.enabled),
    (.text "severity", .ofOption (fun s => .text s.name) c.severity)] ++
    Constants.toEntries m.constants c.values)

/-- A configuration in JSON. -/
def toJson (c : RuleConfig m) : Json :=
  .object ([("enabled", .bool c.enabled), ("severity", .ofOption (fun s => .text s.name) c.severity)] ++
    Constants.toMembers m.constants c.values)

end RuleConfig
end RollupAudit
