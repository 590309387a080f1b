import RollupAudit.Json.Writer
import RollupAudit.Report.Finding

/-!
# Reports

The findings of one evaluation with their counts. The counts are kept by name, in the order in
which they are shown.
-/

namespace RollupAudit

/-- Counts of findings: all together, by severity and by category. -/
structure Summary where
  total : Int := 0
  bySeverity : List (String × Int) := []
  byCategory : List (String × Int) := []
  deriving DecidableEq, Repr

/-- The output of one evaluation. -/
structure Report where
  findings : List Finding := []
  summary : Summary := {}
  minSeverity : Severity := .info
  rulesEvaluated : Int := 0
  /-- How many rules had each outcome, whatever the severity. -/
  outcomeCounts : List (String × Int) := []
  deriving DecidableEq, Repr

namespace Report

/-- The more severe of two severities, the first if they are the same. -/
def moreSevere (s t : Severity) : Severity :=
  if s.rank < t.rank then t else s

/-- The highest severity of the findings. -/
def worst? (r : Report) : Option Severity :=
  match r.findings with
  | [] => none
  | f :: fs => some (fs.foldl (fun s g => moreSevere s g.severity) f.severity)

/-- Whether a finding is at or above a severity. -/
def hasFindingAtLeast (r : Report) (threshold : Severity) : Bool :=
  r.worst?.any fun s => s.atLeast threshold

/-- Findings added to the group of their category. -/
def addToGroup (f : Finding) : List (Category × List Finding) → List (Category × List Finding)
  | [] => [(f.category, [f])]
  | (c, fs) :: rest =>
    if c = f.category then (c, fs ++ [f]) :: rest else (c, fs) :: addToGroup f rest

/-- The findings by category, the categories in the order of their first findings. -/
def groups (r : Report) : List (Category × List Finding) :=
  r.findings.foldl (fun acc f => addToGroup f acc) []

/-- Counts in JSON. -/
def countsToJson (counts : List (String × Int)) : Json :=
  .object (counts.map fun c => (c.1, .int c.2))

/-- The JSON form of a report. -/
def toJson (r : Report) : Json :=
  .object [
    ("findings", .array (r.findings.map Finding.toJson)),
    ("summary", .object [
      ("total", .int r.summary.total),
      ("by_severity", countsToJson r.summary.bySeverity),
      ("by_category", countsToJson r.summary.byCategory),
      ("worst_severity", .ofOption (fun s => .text s.name) r.worst?)]),
    ("min_severity", .text r.minSeverity.name),
    ("rules_evaluated", .int r.rulesEvaluated),
    ("outcome_counts", countsToJson r.outcomeCounts)]

/-- The JSON text of a report, unless a count has too many digits. -/
def text? (r : Report) (indent : Option Nat) : Option String :=
  r.toJson.write? (.ofIndent indent)

end Report

open Fields in
/-- Counts by name. -/
def Choice.counts {ε : Type} : Value → Checked ε (List (String × Int)) :=
  textMapping (scalar Scalar.readInt)

open Fields in
/-- The summary that a document value denotes. -/
def Summary.ofValue {ε : Type} : Value → Checked ε Summary :=
  model "ReportSummary" fun es =>
    Summary.mk <$> optional es "total" 0 (scalar Scalar.readInt)
      <*> optional es "by_severity" [] Choice.counts
      <*> optional es "by_category" [] Choice.counts

open Fields in
/-- The report that a document value denotes. -/
def Report.ofValue {ε : Type} : Value → Checked ε Report :=
  model "Report" fun es =>
    Report.mk <$> optional es "findings" [] (listOf .tupleType Finding.ofValue)
      <*> optional es "summary" {} Summary.ofValue
      <*> optional es "min_severity" .info Choice.severity
      <*> optional es "rules_evaluated" 0 (scalar Scalar.readInt)
      <*> optional es "outcome_counts" [] Choice.counts

end RollupAudit
