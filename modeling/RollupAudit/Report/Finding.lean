import RollupAudit.Json.Basic
import RollupAudit.Report.Category
import RollupAudit.Report.Outcome

/-!
# Findings

A reported outcome of one rule on one snapshot, and the order of findings in a report: by category,
then the most severe first, then by rule. The remaining fields only break ties, so that findings
that differ are never equal in the order.
-/

namespace RollupAudit

/-- A reported outcome. -/
structure Finding where
  ruleId : String
  ruleTitle : String := ""
  category : Category
  severity : Severity
  verdict : Verdict
  detail : String
  reference : String
  internalError : Bool := false
  deriving DecidableEq, Repr

/-- What findings are ordered by, from the first field to the last. -/
structure SortKey where
  position : Nat
  /-- The rank of the severity, negative so that the most severe comes first. -/
  severity : Int
  ruleId : String
  reference : String
  status : String
  detail : String
  title : String
  internalError : Bool
  deriving DecidableEq, Repr

namespace SortKey

/-- The lexicographic order of the fields. -/
def compare (a b : SortKey) : Ordering :=
  (Ord.compare a.position b.position).then <|
  (Ord.compare a.severity b.severity).then <|
  (Ord.compare a.ruleId b.ruleId).then <|
  (Ord.compare a.reference b.reference).then <|
  (Ord.compare a.status b.status).then <|
  (Ord.compare a.detail b.detail).then <|
  (Ord.compare a.title b.title).then <|
  Ord.compare a.internalError b.internalError

/-- Whether a key comes no later than another. -/
def le (a b : SortKey) : Bool := (a.compare b).isLE

end SortKey

namespace Finding

/-- The rule and snapshot of a finding: a report has at most one finding for each. -/
def key (f : Finding) : String × String := (f.ruleId, f.reference)

/-- The place of a finding in the order of a report. -/
def sortKey (f : Finding) : SortKey where
  position := f.category.position
  severity := -Int.ofNat f.severity.rank
  ruleId := f.ruleId
  reference := f.reference
  status := f.verdict.status.name
  detail := f.detail
  title := f.ruleTitle
  internalError := f.internalError

/-- Whether a finding comes no later than another. -/
def le (f g : Finding) : Bool := f.sortKey.le g.sortKey

/-- Findings in the order of a report. -/
def sort (fs : List Finding) : List Finding := fs.mergeSort le

/-- The refusal of a finding with a status that no finding reports. -/
def notReportableMessage (s : Status) : String :=
  "Findings are only produced from FAIL/INCONCLUSIVE outcomes, got " ++ s.name

/-- The verdict of a status, or the refusal to report it. -/
def verdictOf (s : Status) : Except Cause Verdict :=
  match s.verdict? with
  | some v => .ok v
  | none => .error (.refused (notReportableMessage s))

/-- The JSON form of a finding. -/
def toJson (f : Finding) : Json :=
  .object [
    ("rule_id", .text f.ruleId),
    ("rule_title", .text f.ruleTitle),
    ("category", .text f.category.name),
    ("severity", .text f.severity.name),
    ("status", .text f.verdict.status.name),
    ("detail", .text f.detail),
    ("fact_snapshot_ref", .text f.reference),
    ("internal_error", .bool f.internalError)]

end Finding

/-- A category by its name. -/
def Choice.category {ε : Type} (v : Value) : Checked ε Category :=
  .ofExcept (Choice.read (Category.all.map Category.name) Category.ofName? v)

open Fields in
/-- The finding that a document value denotes. -/
def Finding.ofValue {ε : Type} : Value → Checked ε Finding :=
  model "Finding" fun es =>
    ((fun ruleId title category severity status detail reference internalError =>
        (status, fun verdict =>
          Finding.mk ruleId title category severity verdict detail reference internalError)) <$>
      required es "rule_id" (scalar Scalar.readText)
      <*> optional es "rule_title" "" (scalar Scalar.readText)
      <*> required es "category" Choice.category
      <*> required es "severity" Choice.severity
      <*> required es "status" Choice.status
      <*> required es "detail" (scalar Scalar.readText)
      <*> required es "fact_snapshot_ref" (scalar Scalar.readText)
      <*> optional es "internal_error" false (scalar Scalar.readFlag)).andThen
    fun (status, finding) => (Checked.ofExcept (Finding.verdictOf status)).map finding

end RollupAudit
