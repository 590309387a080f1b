import RollupAudit.Facts.Canonical
import RollupAudit.Report.Basic

/-!
# Reports in Markdown

A report as a document: the snapshot, the totals, and a section for each category with its
findings.
-/

namespace RollupAudit
namespace Report

/-- The lines of a finding. -/
def findingLines (f : Finding) : List String :=
  ["", "### " ++ f.ruleId ++ " [" ++ f.severity.name ++ "] " ++ f.verdict.status.name] ++
    (if f.ruleTitle.isEmpty then [] else [f.ruleTitle]) ++ ["- Detail: " ++ f.detail]

/-- The lines of a category. -/
def groupLines (g : Category × List Finding) : List String :=
  ["", "## " ++ g.1.name] ++ g.2.flatMap findingLines

/-- The lines of a report on a snapshot with a reference. -/
def markdownLines (r : Report) (f : Facts) (reference : String) : List String :=
  ["# Rollup Lint " ++ f.chainId,
    "",
    "Observed at: " ++ f.observedAt.offsetText,
    "Snapshot: " ++ reference,
    "Rules evaluated: " ++ Text.intText r.rulesEvaluated,
    "Worst severity: " ++ (r.worst?.elim "none" Severity.name),
    "",
    "## Totals"] ++
    r.summary.bySeverity.map (fun c => "- " ++ c.1 ++ ": " ++ Text.intText c.2) ++
    r.groups.flatMap groupLines

/-- The document of a report on a snapshot with a reference. -/
def markdown (r : Report) (f : Facts) (reference : String) : String :=
  String.intercalate "\n" (r.markdownLines f reference) ++ "\n"

end Report
end RollupAudit
