import RollupAudit.Facts.Address
import RollupAudit.Facts.Parameter
import RollupAudit.Number.Decimal
import RollupAudit.Time.Instant

/-!
# Facts

The snapshot of one deployment's observable configuration: the chain, the instant that the facts
describe, up to six sections, and the parameters. Every part of a section but the anchor's time may
be unknown.
-/

namespace RollupAudit

/-- A sequencer or proposer set. -/
structure OperatorFacts where
  addresses : List Address := []
  backups : List Address := []
  rotationPolicy : Option String := none
  lastActivity : Option Instant := none
  /-- Whether users can force transactions in through the base chain; of sequencers only. -/
  forceInclusion : Option Bool := none
  /-- Whether anyone may propose once the listed proposers stall; of proposers only. -/
  permissionlessFallback : Option Bool := none
  deriving DecidableEq

/-- Who may upgrade the contracts, and with what notice. -/
structure UpgradeFacts where
  delaySeconds : Option Nat := none
  admin : Option Address := none
  adminIsMultisig : Option Bool := none
  pendingImplementation : Option Address := none
  scheduledActivation : Option Instant := none
  deriving DecidableEq

/-- How and when users can withdraw. -/
structure WithdrawalFacts where
  delaySeconds : Option Nat := none
  liquidity : Option Decimal := none
  pendingTotal : Option Decimal := none
  emergencyMode : Option Bool := none
  escapeHatch : Option Bool := none
  deriving DecidableEq

/-- The anchored state root and where it comes from. -/
structure AnchorFacts where
  timestamp : Instant
  sourceRegistry : String := ""
  stateRoot : Option String := none
  deriving DecidableEq

/-- The price oracle and its backup. -/
structure OracleFacts where
  primary : Option Address := none
  backup : Option Address := none
  freshnessBoundSeconds : Option Nat := none
  lastUpdate : Option Instant := none
  deriving DecidableEq

/-- The version of the snapshot form. -/
def formVersion : Nat := 1

/-- A snapshot of one deployment. -/
structure Facts where
  /-- The version of the form that the snapshot was given in. -/
  version : Int := Int.ofNat formVersion
  chainId : String
  observedAt : Instant
  sequencer : Option OperatorFacts := none
  proposer : Option OperatorFacts := none
  upgrade : Option UpgradeFacts := none
  withdrawal : Option WithdrawalFacts := none
  anchor : Option AnchorFacts := none
  oracle : Option OracleFacts := none
  /-- Names and values in the order of the names. -/
  parameters : List (String × Parameter) := []
  deriving DecidableEq

namespace OperatorFacts

/-- The listed backups that are set and not among the primary addresses. -/
def configuredBackups (o : OperatorFacts) : List Address :=
  o.backups.filter fun a => !a.isUnset && !o.addresses.contains a

/-- The number of different accounts among the primary addresses that are set. -/
def activeCount (o : OperatorFacts) : Nat :=
  ((o.addresses.filter fun a => !a.isUnset).eraseDups).length

end OperatorFacts

namespace Facts

/-- The value of a parameter, if the snapshot has it. -/
def parameter? (f : Facts) (name : String) : Option Parameter :=
  Parameter.lookup? name f.parameters

/-- The time from an instant to the observation. -/
def elapsedSince (f : Facts) (moment : Instant) : Duration :=
  f.observedAt - moment

/-- Equality of amounts by value. -/
def sameAmount : Option Decimal → Option Decimal → Bool
  | none, none => true
  | some x, some y => x.numericEq y
  | _, _ => false

/-- Equality of withdrawal facts, amounts by value. -/
def sameWithdrawal : Option WithdrawalFacts → Option WithdrawalFacts → Bool
  | none, none => true
  | some v, some w =>
    v.delaySeconds == w.delaySeconds && sameAmount v.liquidity w.liquidity &&
      sameAmount v.pendingTotal w.pendingTotal && v.emergencyMode == w.emergencyMode &&
      v.escapeHatch == w.escapeHatch
  | _, _ => false

/-- Equality of parameters by name and value. -/
def sameParameters : List (String × Parameter) → List (String × Parameter) → Bool
  | [], [] => true
  | p :: ps, q :: qs => p.1 == q.1 && p.2.numericEq q.2 && sameParameters ps qs
  | _, _ => false

/-- Equality of snapshots by the values of their parts: numbers of different kinds or with
different digits can be equal, and what is not a number equals nothing. -/
def sameValues (f g : Facts) : Bool :=
  f.version == g.version && f.chainId == g.chainId && f.observedAt == g.observedAt &&
    f.sequencer == g.sequencer && f.proposer == g.proposer && f.upgrade == g.upgrade &&
    sameWithdrawal f.withdrawal g.withdrawal && f.anchor == g.anchor && f.oracle == g.oracle &&
    sameParameters f.parameters g.parameters

end Facts
end RollupAudit
