import RollupAudit.Report.Basic

/-!
# Aggregation

Findings merged into a report: one finding for each rule and snapshot, the most severe, in the
order of a report, down to a minimum severity. The result depends on the set of findings only.
-/

namespace RollupAudit

/-- The first finding of each rule and snapshot, leaving out those with a key in `seen`. -/
def firstOfEach (seen : List (String × String)) : List Finding → List Finding
  | [] => []
  | f :: fs =>
    if seen.contains f.key then firstOfEach seen fs else f :: firstOfEach (f.key :: seen) fs

/-- One finding for each rule and snapshot, the first in the order of a report. -/
def dedupe (fs : List Finding) : List Finding :=
  Finding.sort (firstOfEach [] (Finding.sort fs))

/-- The number of findings with a severity. -/
def countSeverity (s : Severity) (fs : List Finding) : Nat :=
  fs.countP fun f => f.severity = s

/-- The number of findings in a category. -/
def countCategory (c : Category) (fs : List Finding) : Nat :=
  fs.countP fun f => f.category = c

/-- The categories of findings, in the order of a report. -/
def categoriesOf (fs : List Finding) : List Category :=
  Category.all.filter fun c => fs.any fun f => f.category = c

/-- The counts of findings: all severities, and the categories that have any. -/
def summarize (fs : List Finding) : Summary where
  total := fs.length
  bySeverity := Severity.descending.map fun s => (s.name, Int.ofNat (countSeverity s fs))
  byCategory := (categoriesOf fs).map fun c => (c.name, Int.ofNat (countCategory c fs))

/-- Counts for all statuses, zero where none is given. -/
def allCounts (counts : List (Status × Int)) : List (String × Int) :=
  Status.all.map fun s => (s.name, (valueAt? s counts.reverse).getD 0)

/-- Findings merged into a report. -/
def aggregate (fs : List Finding) (minSeverity : Severity := .info) (rulesEvaluated : Int := 0)
    (outcomeCounts : List (Status × Int) := []) : Report :=
  let kept := (dedupe fs).filter fun f => f.severity.atLeast minSeverity
  { findings := kept
    summary := summarize kept
    minSeverity
    rulesEvaluated
    outcomeCounts := allCounts outcomeCounts }

end RollupAudit
