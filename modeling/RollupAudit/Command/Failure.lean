import RollupAudit.Command.Settings
import RollupAudit.Evaluation.Options
import RollupAudit.Policy.File
import RollupAudit.Rule.Registry
import RollupAudit.Snapshot.Source

/-!
# Failures of a run

Why a run gives no report. Most failures are reported in one line. A few break the run off: a file
or directory that cannot be used where one must be, values that the reader of a document or of facts
is not made for, and a time limit too long to be waited for.
-/

namespace RollupAudit
namespace Command

/-- Why a module with further rules is not loaded. -/
inductive PluginError
  | noName
  | relative (name : String)
  | missing (name : String)
  deriving DecidableEq, Repr

/-- The wording of an error. -/
def PluginError.message : PluginError → String
  | .noName => "Empty module name"
  | .relative name =>
    "the 'package' argument is required to perform a relative import for " ++ Text.quoted name
  | .missing name => "No module named " ++ Text.quoted name

/-- Why a run gives no report. -/
inductive Failure
  | settings (e : SettingsError)
  | badTime (given : String)
  | plugin (e : PluginError)
  | policy (e : PolicyFileError)
  | registry (e : RegistryError)
  | sourceChoice (e : SourceChoiceError)
  | noChain
  | chainCount (path : FilePath) (count : Nat)
  /-- The id of a chain has an integer with too many digits in it. -/
  | longChainId
  | source (e : SourceError)
  | evaluation (e : EvaluationError)
  /-- The end of an evaluation cannot be waited for as long as its limit is. -/
  | longWait
  /-- A path cannot be resolved, or the report cannot be written. -/
  | file (fault : FileFault)

/-- Whether a run reports that a text is no document. -/
def reportsDocument : DocumentFault → Bool
  | .yaml (.noCharacter code) => code < 2 ^ 31
  -- A document that holds itself has no value here, so nothing can be told of it.
  | .yaml .endless => false
  | .yaml (.notFlag _) | .yaml .emptyNumber | .yaml .tooManyPlaces | .yaml .notTimestamp
  | .yaml .notScalar => false
  | _ => true

/-- Whether a run reports that a file holds no document. -/
def reportsFault : ReadFault → Bool
  | .file fault => fault.cause == .zeroCharacter || fault.cause == .barredName
  | .text _ => true
  | .document d => reportsDocument d

namespace Failure

/-- Whether a run reports a failure and does not break off. -/
def isReported : Failure → Bool
  | .plugin (.relative _) => false
  | .policy (.broken fault) => reportsFault fault
  | .source (.broken fault) => reportsFault fault
  | .source (.facts e) => e.isMalformed
  -- No rule of the library lets an error escape, and what is done by modules with others is left aside.
  | .evaluation (.escaped _) => false
  | .longWait | .file _ => false
  | _ => true

/-- The wording of a failure with a text for what is behind it. -/
def messageWith (cause : String) : Failure → String
  | .settings e => e.message
  | .badTime given => "--at is not an ISO-8601 time: " ++ given
  | .plugin e => e.message
  | .policy e => e.messageWith cause
  | .registry (.badPolicy e) => e.messageWith cause
  | .registry e => e.message
  | .sourceChoice e => e.message
  | .noChain => "--chain-id is required unless --facts-file is given."
  | .chainCount p count => p.text ++ " holds " ++ toString count ++ " chains; pass --chain-id."
  | .longChainId => Text.tooManyDigitsMessage
  | .source e => e.messageWith cause
  | .evaluation e => e.message
  | .longWait => "timeout value is too large"
  | .file fault => fault.message

/-- The wording of a failure. -/
def message (f : Failure) : String :=
  match f with
  | .policy e => e.message
  | .registry e => e.message
  | .source e => e.message
  | f => f.messageWith ""

end Failure
end Command
end RollupAudit
