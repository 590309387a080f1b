import RollupAudit.Facts.Basic
import RollupAudit.Time.Timestamp

/-!
# Selecting a snapshot

Among the snapshots of a chain, those observed at or before a time count if a time is given. The
latest of them is selected, and the first of several latest ones.
-/

namespace RollupAudit
namespace Snapshot

/-- Whether a snapshot is of a chain and not observed after a time. -/
def isCandidate (chain : String) (by_ : Option Timestamp) (f : Facts) : Bool :=
  f.chainId == chain && by_.all fun t => (f.observedAt.micros : Int) ≤ t.utcMicros

/-- The later of two snapshots, the first if they were observed at the same instant. -/
def later (f g : Facts) : Facts :=
  if f.observedAt.micros < g.observedAt.micros then g else f

/-- The first of the latest snapshots. -/
def latest? : List Facts → Option Facts
  | [] => none
  | f :: fs => some (fs.foldl later f)

/-- The snapshot of a chain to judge. -/
def select? (snapshots : List Facts) (chain : String) (by_ : Option Timestamp) : Option Facts :=
  latest? (snapshots.filter (isCandidate chain by_))

end Snapshot
end RollupAudit
