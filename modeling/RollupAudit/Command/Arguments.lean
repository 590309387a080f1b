import RollupAudit.Command.Options
import RollupAudit.Report.Category
import RollupAudit.Report.Severity

/-!
# Arguments of a run

What the command line says about a run: which snapshot to judge, by which policy and rules, what to
report of it, and where. Of an option given twice the last value counts, except that categories and
plugins add up.
-/

namespace RollupAudit
namespace Command

/-- The forms of a report. -/
inductive ReportFormat
  | json
  | markdown
  | both
  deriving DecidableEq, Repr

namespace ReportFormat

/-- The name of a form. -/
def name : ReportFormat → String
  | .json => "json"
  | .markdown => "markdown"
  | .both => "both"

/-- All forms. -/
def all : List ReportFormat := [.json, .markdown, .both]

/-- The form with a name. -/
def ofName? (s : String) : Option ReportFormat := all.find? fun f => f.name == s

/-- Whether a report in JSON is among the forms. -/
def hasJson (f : ReportFormat) : Bool := f != .markdown

/-- Whether a report in Markdown is among the forms. -/
def hasMarkdown (f : ReportFormat) : Bool := f != .json

end ReportFormat

/-- The arguments of a run. -/
structure Arguments where
  chainId : Option String := none
  at_ : Option String := none
  factsFile : Option String := none
  fixtures : Option String := none
  policy : Option String := none
  categories : List Category := []
  minSeverity : Severity := .info
  failOn : Severity := .high
  parallel : Bool := false
  maxWorkers : Option Int := none
  timeLimit : Option Binary64 := none
  plugins : List String := []
  format : ReportFormat := .json
  outputDirectory : Option String := none
  snapshotDirectory : Option String := none
  deriving DecidableEq

namespace Arguments

/-- The names of severities. -/
def severityNames : List String := Severity.all.map Severity.name

/-- The options of a run. -/
def options : List OptionSpec := [
  helpOption,
  ⟨["--chain-id"], .text⟩,
  ⟨["--at"], .text⟩,
  ⟨["--facts-file"], .text⟩,
  ⟨["--fixtures-dir"], .text⟩,
  ⟨["--policy"], .text⟩,
  ⟨["--category"], .choice (Category.all.map Category.name)⟩,
  ⟨["--min-severity"], .choice severityNames⟩,
  ⟨["--fail-on"], .choice severityNames⟩,
  ⟨["--parallel"], .flag⟩,
  ⟨["--max-workers"], .integer⟩,
  ⟨["--timeout"], .number⟩,
  ⟨["--plugin"], .text⟩,
  ⟨["--format"], .choice (ReportFormat.all.map ReportFormat.name)⟩,
  ⟨["--output-dir"], .text⟩,
  ⟨["--snapshot-dir"], .text⟩]

/-- All values of an option. -/
def valuesOf (values : List (String × OptionValue)) (name : String) : List OptionValue :=
  (values.filter fun v => v.1 == name).map Prod.snd

/-- The text of a value. -/
def text? : OptionValue → Option String
  | .text s => some s
  | _ => none

/-- The integer of a value. -/
def integer? : OptionValue → Option Int
  | .integer n => some n
  | _ => none

/-- The number of a value. -/
def number? : OptionValue → Option Binary64
  | .number x => some x
  | _ => none

/-- The arguments that options with values give. -/
def ofValues (values : List (String × OptionValue)) : Arguments :=
  let last (name : String) : Option OptionValue := (valuesOf values name).getLast?
  let text (name : String) : Option String := (last name).bind text?
  let texts (name : String) : List String := (valuesOf values name).filterMap text?
  { chainId := text "--chain-id"
    at_ := text "--at"
    factsFile := text "--facts-file"
    fixtures := text "--fixtures-dir"
    policy := text "--policy"
    categories := (texts "--category").filterMap Category.ofName?
    minSeverity := ((text "--min-severity").bind Severity.ofName?).getD .info
    failOn := ((text "--fail-on").bind Severity.ofName?).getD .high
    parallel := (last "--parallel").isSome
    maxWorkers := (last "--max-workers").bind integer?
    timeLimit := (last "--timeout").bind number?
    plugins := texts "--plugin"
    format := ((text "--format").bind ReportFormat.ofName?).getD .json
    outputDirectory := text "--output-dir"
    snapshotDirectory := text "--snapshot-dir" }

end Arguments
end Command
end RollupAudit
