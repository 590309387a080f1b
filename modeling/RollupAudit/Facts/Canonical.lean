import RollupAudit.Digest.Sha256
import RollupAudit.Facts.Basic
import RollupAudit.Json.Writer
import RollupAudit.Number.DecimalText
import RollupAudit.Text.Utf8

/-!
# Canonical form of facts

The JSON form of a snapshot with all its fields, and the reference of a snapshot: the digest of the
compact text of that form.
-/

namespace RollupAudit

/-- An address in JSON. -/
def Address.toJson (a : Address) : Json := .text a.text

/-- An instant in JSON. -/
def Instant.toJson (i : Instant) : Json := .text i.utcText

/-- An amount in JSON: a text with all its digits. -/
def Decimal.toJson (d : Decimal) : Json := .text d.text

/-- A number of seconds in JSON. -/
def secondsToJson (n : Nat) : Json := .int n

def OperatorFacts.toJson (o : OperatorFacts) : Json :=
  .object [
    ("addresses", .array (o.addresses.map Address.toJson)),
    ("backup_addresses", .array (o.backups.map Address.toJson)),
    ("rotation_policy", .ofOption .text o.rotationPolicy),
    ("last_activity_at", .ofOption Instant.toJson o.lastActivity),
    ("force_inclusion_enabled", .ofOption .bool o.forceInclusion),
    ("permissionless_fallback", .ofOption .bool o.permissionlessFallback)]

def UpgradeFacts.toJson (u : UpgradeFacts) : Json :=
  .object [
    ("delay_seconds", .ofOption secondsToJson u.delaySeconds),
    ("admin_address", .ofOption Address.toJson u.admin),
    ("admin_is_multisig", .ofOption .bool u.adminIsMultisig),
    ("pending_implementation", .ofOption Address.toJson u.pendingImplementation),
    ("scheduled_activation_at", .ofOption Instant.toJson u.scheduledActivation)]

def WithdrawalFacts.toJson (w : WithdrawalFacts) : Json :=
  .object [
    ("delay_seconds", .ofOption secondsToJson w.delaySeconds),
    ("liquidity_balance", .ofOption Decimal.toJson w.liquidity),
    ("pending_withdrawals_total", .ofOption Decimal.toJson w.pendingTotal),
    ("emergency_mode", .ofOption .bool w.emergencyMode),
    ("escape_hatch_enabled", .ofOption .bool w.escapeHatch)]

def AnchorFacts.toJson (a : AnchorFacts) : Json :=
  .object [
    ("timestamp", a.timestamp.toJson),
    ("source_registry", .text a.sourceRegistry),
    ("state_root", .ofOption .text a.stateRoot)]

def OracleFacts.toJson (o : OracleFacts) : Json :=
  .object [
    ("primary_address", .ofOption Address.toJson o.primary),
    ("backup_address", .ofOption Address.toJson o.backup),
    ("freshness_bound_seconds", .ofOption secondsToJson o.freshnessBoundSeconds),
    ("last_update_at", .ofOption Instant.toJson o.lastUpdate)]

namespace Facts

/-- The JSON form of a snapshot. -/
def toJson (f : Facts) : Json :=
  .object [
    ("schema_version", .int f.version),
    ("chain_id", .text f.chainId),
    ("observed_at", f.observedAt.toJson),
    ("sequencer", .ofOption OperatorFacts.toJson f.sequencer),
    ("proposer", .ofOption OperatorFacts.toJson f.proposer),
    ("upgrade", .ofOption UpgradeFacts.toJson f.upgrade),
    ("withdrawal", .ofOption WithdrawalFacts.toJson f.withdrawal),
    ("anchor", .ofOption AnchorFacts.toJson f.anchor),
    ("oracle", .ofOption OracleFacts.toJson f.oracle),
    ("parameters", .object (f.parameters.map fun p => (p.1, p.2.toJson)))]

/-- The compact text of the JSON form, unless an integer has too many digits. -/
def canonicalText? (f : Facts) : Option String :=
  f.toJson.write? .compact

/-- The reference of a snapshot with a canonical text. -/
def referenceOf (canonical : String) : String :=
  "sha256:" ++ Sha256.hexDigest (Text.encodeUtf8 canonical)

/-- The reference of a snapshot, unless an integer has too many digits. -/
def reference? (f : Facts) : Option String :=
  f.canonicalText?.map referenceOf

end Facts
end RollupAudit
