import RollupAudit.Facts.Basic
import RollupAudit.Text.LetterCase
import RollupAudit.Validation.Fields

/-!
# Reading facts

The snapshot that a document value denotes, or what is wrong with it. The issues of the snapshot's
own fields are collected. An issue inside a section ends the reading at once and is reported from
within the section.
-/

namespace RollupAudit

/-- Why a value denotes no snapshot. -/
inductive FactsError
  | notMapping (kind : String)
  | issues (first : Issue) (rest : List Issue)
  | emptyOverride
  | notSection (key part : String)
  | nonTextKey
  | reservedKey
  | timeOutOfRange
  deriving DecidableEq, Repr

namespace FactsError

/-- Whether the error says that the facts are malformed, and not how the reading broke down. -/
def isMalformed : FactsError → Bool
  | .nonTextKey | .reservedKey | .timeOutOfRange => false
  | _ => true

/-- An issue with its place in front; the whole snapshot if the place has no text. -/
def issueText (i : Issue) : String :=
  (if i.place.isEmpty then "facts" else i.place) ++ ": " ++ i.cause.message

/-- The wording of an error. -/
def message : FactsError → String
  | .notMapping kind => "facts must be a mapping, got " ++ kind
  | .issues first rest => String.intercalate "; " ((first :: rest).map issueText)
  | .emptyOverride => "override key must not be empty"
  | .notSection key part => "cannot override '" ++ key ++ "': '" ++ part ++ "' is not a section"
  | .nonTextKey => "keywords must be strings"
  | .reservedKey => "_FactSection.__init__() got multiple values for argument 'self'"
  | .timeOutOfRange => "date value out of range"

end FactsError

namespace Reading

open Fields

/-- A check of a part of a snapshot. -/
abbrev Check (α : Type) := Checked FactsError α

/-- The name that no field can have. -/
def reservedName : String := "self"

/-- The fault of the keys of a mapping, if they have one. -/
def keyFault? (es : Entries) : Option FactsError :=
  if es.any fun e => !e.1.isText then some .nonTextKey
  else if (Value.lookup? reservedName es).isSome then some .reservedKey
  else none

/-- A checked value, or all the issues as one error. -/
def finish {α : Type} : Check α → Except FactsError α
  | .accepted a => .ok a
  | .rejected first rest => .error (.issues first rest)
  | .aborted e => .error e

/-- A check whose issues end the reading at once. -/
def sealed {α : Type} (x : Check α) : Check α :=
  match finish x with
  | .ok a => .accepted a
  | .error e => .aborted e

/-- The fields of a mapping, none but those named, as one value. -/
def fields {α : Type} (names : List String) (build : Entries → Check α) (es : Entries) : Check α :=
  match keyFault? es with
  | some e => .aborted e
  | none => andCheck (build es) (onlyFields names es)

/-- A section of a snapshot. -/
def readSection {α : Type} (model : String) (names : List String) (build : Entries → Check α) :
    Value → Check α
  | .mapping es => sealed (fields names build es)
  | _ => .reject (.modelType model)

/-- The instant of a timestamp. A clock reading of unknown offset is universal time. -/
def toInstant (t : Timestamp) : Check Instant :=
  match t.instant? with
  | some i => .accepted i
  | none => .aborted .timeOutOfRange

/-- An instant. -/
def instant (v : Value) : Check Instant :=
  (scalar Scalar.readTimestamp v).andThen toInstant

/-- An address that a text denotes. -/
def toAddress (s : String) : Check Address :=
  match Address.ofText? s with
  | some a => .accepted a
  | none => .reject (.refused (Address.invalidMessage s))

/-- An address. -/
def address (v : Value) : Check Address :=
  (scalar Scalar.readText v).andThen toAddress

/-- The addresses of texts, up to the first text that denotes none. -/
def toAddresses : List String → Check (List Address)
  | [] => .accepted []
  | s :: ss => (toAddress s).andThen fun a => (toAddresses ss).map (a :: ·)

/-- A list of addresses. -/
def addresses (v : Value) : Check (List Address) :=
  (listOf .tupleType (scalar Scalar.readText) v).andThen toAddresses

/-- A policy in words: without outer blanks and in small letters. -/
def policyText (v : Value) : Check String :=
  (scalar Scalar.readText v).map fun s => Text.lower (Text.strip s)

/-- A text without outer blanks. -/
def stripped (v : Value) : Check String :=
  (scalar Scalar.readText v).map Text.strip

/-- The id of a chain: a text that is not blank, without outer blanks. -/
def chainId (v : Value) : Check String :=
  (stripped v).andThen fun s =>
    if s.isEmpty then .reject (.refused "chain_id must not be empty") else .accepted s

def operatorFields : List String :=
  ["addresses", "backup_addresses", "rotation_policy", "last_activity_at",
    "force_inclusion_enabled", "permissionless_fallback"]

/-- A sequencer or proposer section. -/
def operator : Value → Check OperatorFacts :=
  readSection "OperatorConfig" operatorFields fun es =>
    OperatorFacts.mk <$> optional es "addresses" [] addresses
      <*> optional es "backup_addresses" [] addresses
      <*> field es "rotation_policy" policyText
      <*> field es "last_activity_at" instant
      <*> field es "force_inclusion_enabled" (scalar Scalar.readFlag)
      <*> field es "permissionless_fallback" (scalar Scalar.readFlag)

def upgradeFields : List String :=
  ["delay_seconds", "admin_address", "admin_is_multisig", "pending_implementation",
    "scheduled_activation_at"]

/-- An upgrade section. -/
def upgrade : Value → Check UpgradeFacts :=
  readSection "UpgradeConfig" upgradeFields fun es =>
    UpgradeFacts.mk <$> field es "delay_seconds" (scalar Scalar.readNat)
      <*> field es "admin_address" address
      <*> field es "admin_is_multisig" (scalar Scalar.readFlag)
      <*> field es "pending_implementation" address
      <*> field es "scheduled_activation_at" instant

def withdrawalFields : List String :=
  ["delay_seconds", "liquidity_balance", "pending_withdrawals_total", "emergency_mode",
    "escape_hatch_enabled"]

/-- A withdrawal section. -/
def withdrawal : Value → Check WithdrawalFacts :=
  readSection "WithdrawalConfig" withdrawalFields fun es =>
    WithdrawalFacts.mk <$> field es "delay_seconds" (scalar Scalar.readNat)
      <*> field es "liquidity_balance" (scalar Scalar.readAmount)
      <*> field es "pending_withdrawals_total" (scalar Scalar.readAmount)
      <*> field es "emergency_mode" (scalar Scalar.readFlag)
      <*> field es "escape_hatch_enabled" (scalar Scalar.readFlag)

def anchorFields : List String :=
  ["timestamp", "source_registry", "state_root"]

/-- An anchor section. -/
def anchor : Value → Check AnchorFacts :=
  readSection "AnchorMetadata" anchorFields fun es =>
    AnchorFacts.mk <$> required es "timestamp" instant
      <*> optional es "source_registry" "" stripped
      <*> field es "state_root" (scalar Scalar.readText)

def oracleFields : List String :=
  ["primary_address", "backup_address", "freshness_bound_seconds", "last_update_at"]

/-- An oracle section. -/
def oracle : Value → Check OracleFacts :=
  readSection "OracleConfig" oracleFields fun es =>
    OracleFacts.mk <$> field es "primary_address" address
      <*> field es "backup_address" address
      <*> field es "freshness_bound_seconds" (scalar Scalar.readNat)
      <*> field es "last_update_at" instant

def factsFields : List String :=
  ["schema_version", "chain_id", "observed_at", "sequencer", "proposer", "upgrade", "withdrawal",
    "anchor", "oracle", "parameters"]

/-- The version of the snapshot form, which must be the current one. -/
def version (v : Value) : Check Int :=
  scalar (Scalar.readIntBetween formVersion formVersion) v

/-- The fields of a snapshot. -/
def factsOfEntries (es : Entries) : Check Facts :=
  Facts.mk <$> optional es "schema_version" (Int.ofNat formVersion) version
    <*> required es "chain_id" chainId
    <*> required es "observed_at" instant
    <*> field es "sequencer" operator
    <*> field es "proposer" operator
    <*> field es "upgrade" upgrade
    <*> field es "withdrawal" withdrawal
    <*> field es "anchor" anchor
    <*> field es "oracle" oracle
    <*> optional es "parameters" [] Parameter.readAll

end Reading

/-- The snapshot that a document value denotes. -/
def Facts.ofValue : Value → Except FactsError Facts
  | .mapping es => Reading.finish (Reading.fields Reading.factsFields Reading.factsOfEntries es)
  | v => .error (.notMapping v.kindName)

end RollupAudit
