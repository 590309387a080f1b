import RollupAudit.Facts.Reading
import RollupAudit.Text.Split
import RollupAudit.Value.Key

/-!
# Overrides

A snapshot with the value at a dotted path replaced. The snapshot is taken apart into a document
value, the value at the path is set, and the result is read again, so an override is checked like
any other document.
-/

namespace RollupAudit

def OperatorFacts.toValue (o : OperatorFacts) : Value :=
  .mapping [
    (.text "addresses", .tuple (o.addresses.map fun a => .text a.text)),
    (.text "backup_addresses", .tuple (o.backups.map fun a => .text a.text)),
    (.text "rotation_policy", .ofOption .text o.rotationPolicy),
    (.text "last_activity_at", .ofOption (fun i => .timestamp (.ofInstant i)) o.lastActivity),
    (.text "force_inclusion_enabled", .ofOption .bool o.forceInclusion),
    (.text "permissionless_fallback", .ofOption .bool o.permissionlessFallback)]

def UpgradeFacts.toValue (u : UpgradeFacts) : Value :=
  .mapping [
    (.text "delay_seconds", .ofOption (fun n => .int (Int.ofNat n)) u.delaySeconds),
    (.text "admin_address", .ofOption (fun a => .text a.text) u.admin),
    (.text "admin_is_multisig", .ofOption .bool u.adminIsMultisig),
    (.text "pending_implementation", .ofOption (fun a => .text a.text) u.pendingImplementation),
    (.text "scheduled_activation_at",
      .ofOption (fun i => .timestamp (.ofInstant i)) u.scheduledActivation)]

def WithdrawalFacts.toValue (w : WithdrawalFacts) : Value :=
  .mapping [
    (.text "delay_seconds", .ofOption (fun n => .int (Int.ofNat n)) w.delaySeconds),
    (.text "liquidity_balance", .ofOption (fun d => .decimal (.finite d)) w.liquidity),
    (.text "pending_withdrawals_total", .ofOption (fun d => .decimal (.finite d)) w.pendingTotal),
    (.text "emergency_mode", .ofOption .bool w.emergencyMode),
    (.text "escape_hatch_enabled", .ofOption .bool w.escapeHatch)]

def AnchorFacts.toValue (a : AnchorFacts) : Value :=
  .mapping [
    (.text "timestamp", .timestamp (.ofInstant a.timestamp)),
    (.text "source_registry", .text a.sourceRegistry),
    (.text "state_root", .ofOption .text a.stateRoot)]

def OracleFacts.toValue (o : OracleFacts) : Value :=
  .mapping [
    (.text "primary_address", .ofOption (fun a => .text a.text) o.primary),
    (.text "backup_address", .ofOption (fun a => .text a.text) o.backup),
    (.text "freshness_bound_seconds",
      .ofOption (fun n => .int (Int.ofNat n)) o.freshnessBoundSeconds),
    (.text "last_update_at", .ofOption (fun i => .timestamp (.ofInstant i)) o.lastUpdate)]

namespace Facts

/-- The entries of the document form of a snapshot. -/
def toEntries (f : Facts) : List (Value × Value) :=
  [(.text "schema_version", .int f.version),
    (.text "chain_id", .text f.chainId),
    (.text "observed_at", .timestamp (.ofInstant f.observedAt)),
    (.text "sequencer", .ofOption OperatorFacts.toValue f.sequencer),
    (.text "proposer", .ofOption OperatorFacts.toValue f.proposer),
    (.text "upgrade", .ofOption UpgradeFacts.toValue f.upgrade),
    (.text "withdrawal", .ofOption WithdrawalFacts.toValue f.withdrawal),
    (.text "anchor", .ofOption AnchorFacts.toValue f.anchor),
    (.text "oracle", .ofOption OracleFacts.toValue f.oracle),
    (.text "parameters", .mapping (f.parameters.map fun p => (.text p.1, p.2.toValue)))]

/-- The document form of a snapshot. -/
def toValue (f : Facts) : Value :=
  .mapping f.toEntries

end Facts

/-- Entries with the value of a text key replaced in place, or added at the end. -/
def Value.setText (key : String) (value : Value) : List (Value × Value) → List (Value × Value)
  | [] => [(.text key, value)]
  | (.text k, v) :: rest =>
    if k = key then (.text k, value) :: rest else (.text k, v) :: setText key value rest
  | e :: rest => e :: setText key value rest

/-- Entries with the value at a path set. A part of the path that is absent or null becomes a
mapping; a part that is anything else is reported. -/
def Value.setPath (value : Value) : List String → List (Value × Value) →
    Except String (List (Value × Value))
  | [], es => .ok es
  | [last], es => .ok (setText last value es)
  | part :: rest, es =>
    match (lookup? part es).getD .null with
    | .null => (setPath value rest []).map fun inner => setText part (.mapping inner) es
    | .mapping inner => (setPath value rest inner).map fun inner => setText part (.mapping inner) es
    | _ => .error part

/-- The parts of a dotted key that are not empty. -/
def pathParts (key : String) : List String :=
  (Text.split '.' key).filter fun p => !p.isEmpty

/-- The snapshot with the value at a dotted key replaced. -/
def Facts.override (f : Facts) (key : String) (value : Value) : Except FactsError Facts :=
  match pathParts key with
  | [] => .error .emptyOverride
  | parts =>
    match Value.setPath value parts f.toEntries with
    | .ok es => Facts.ofValue (.mapping es)
    | .error part => .error (.notSection key part)

end RollupAudit
