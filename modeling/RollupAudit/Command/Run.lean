import RollupAudit.Command.Arguments
import RollupAudit.Command.Failure
import RollupAudit.Evaluation.Basic
import RollupAudit.Report.Markdown
import RollupAudit.Snapshot.Store
import RollupAudit.Time.IsoReading

/-!
# Runs

A run judges one snapshot by the built-in rules under a policy. It prints the report or writes it to
files, and can keep the snapshot and the report in a store. It alarms if the report has a finding at
or above a severity.
-/

namespace RollupAudit
namespace Command

/-- What a run finds around it besides the environment and the files. -/
structure Host where
  /-- The modules that can be loaded. What a module does when it is loaded is left aside. -/
  modules : List String := []
  evaluation : Surroundings := {}
  /-- Whether rules that run side by side are not over yet when their end is waited for. -/
  waits : Bool := false

/-- The text of an argument that is not empty. -/
def given (s : Option String) : Option String := s.filter fun s => !s.isEmpty

/-- A text with every mark Z of universal time written as an offset. -/
def withOffsets (s : String) : String :=
  String.ofList (s.toList.flatMap fun c => if c = 'Z' then "+00:00".toList else [c])

/-- The time that a text denotes; none for no text. -/
def readTime (s : Option String) : Except IsoFault (Option Timestamp) :=
  match given s with
  | none => .ok none
  | some s => (Timestamp.readIso (withOffsets s)).map some

/-- A path as seen from the root. -/
def resolve (t : FileTree) (s : String) : Except Failure FilePath :=
  let p := FilePath.ofText s
  match p.barrier? with
  | some cause => .error (.file ⟨cause, p⟩)
  | none => .ok (p.resolve ⟨.root, t.home⟩)

/-- A path of an argument as seen from the root. -/
def resolveGiven (t : FileTree) (s : Option String) : Except Failure (Option FilePath) :=
  (given s).mapM (resolve t)

/-- A name and the names of the modules that it is in, the outermost first. -/
def moduleNames (name : String) : List String :=
  let parts := Text.split '.' name
  (List.range parts.length).map fun n => String.intercalate "." (parts.take (n + 1))

/-- The check that a module with further rules can be loaded. -/
def loadPlugin (modules : List String) (name : String) : Except PluginError Unit :=
  if name.isEmpty then .error .noName
  else if name.startsWith "." then .error (.relative name)
  else
    match (moduleNames name).find? fun m => !modules.contains m with
    | none => .ok ()
    | some m => .error (.missing m)

/-- The id of a chain as a document gives it; empty if it gives none. -/
def chainOf (document : Value) : Except Failure String :=
  match (document.get? "chain_id").filter Value.isGiven with
  | none => .ok ""
  | some v => v.plain?.elim (.error .longChainId) .ok

/-- The chain of the snapshots of a file, if they are of one chain. -/
def singleChain (t : FileTree) (p : FilePath) : Except Failure String := do
  let documents ← (Snapshot.documents t p "").mapError .source
  let chains ← documents.mapM chainOf
  match (chains.filter fun s => !s.isEmpty).eraseDups with
  | [chain] => return chain
  | chains => throw (.chainCount p chains.length)

/-- The chain to judge. -/
def chainFor (t : FileTree) (a : Arguments) (file : Option FilePath) : Except Failure String :=
  match a.chainId, file with
  | some chain, _ => .ok chain
  | none, some p => singleChain t p
  | none, none => .error .noChain

/-- The name of the source that a run reads. -/
def sourceName (s : Settings) (file : Option FilePath) : String :=
  match file, s.source with
  | none, .fixtures => SnapshotSource.fixturesName
  | _, _ => SnapshotSource.fileName

/-- The options of the evaluation. A number of workers that is zero counts as none. -/
def evaluationOptions (s : Settings) (a : Arguments) : EvaluationOptions where
  categories := if a.categories.isEmpty then none else some a.categories
  minSeverity := a.minSeverity
  parallel := a.parallel
  maxWorkers := (a.maxWorkers.filter fun n => n != 0).or (s.maxWorkers.map Int.ofNat)
  timeLimit := a.timeLimit.map TimeLimit.ofFloat

/-- The places that a run reads, as seen from the root if an argument gives them. -/
structure Places where
  file : Option FilePath
  fixtures : Option FilePath
  policy : Option FilePath

/-- The places of arguments and settings. -/
def placesOf (t : FileTree) (s : Settings) (a : Arguments) : Except Failure Places := do
  let file ← resolveGiven t a.factsFile
  let fixtures ← resolveGiven t a.fixtures
  let policy ← resolveGiven t a.policy
  return { file, fixtures := fixtures.or s.fixtures, policy := policy.or s.policy }

/-- The files and directories that a run reads, when a chain is known. -/
def Places.paths (p : Places) (chain : Option String) : List FilePath :=
  p.policy.toList ++ p.file.toList ++
    match p.fixtures, chain with
    | some directory, some chain => [directory / chain]
    | _, _ => []

/-- The rules by which a run judges and the snapshot that it judges. -/
def load (t : FileTree) (s : Settings) (a : Arguments) (modules : List String) :
    Except Failure (Registry × Facts) := do
  let places ← placesOf t s a
  let by_ ← (readTime a.at_).mapError fun _ => .badTime (a.at_.getD "")
  let _ ← (a.plugins.mapM (loadPlugin modules)).mapError .plugin
  let policy ← (places.policy.elim (.ok {}) (Policy.ofFile t)).mapError .policy
  let registry ← (Registry.build policy).mapError .registry
  let source ←
    (SnapshotSource.ofName (sourceName s places.file) places.fixtures places.file).mapError
      .sourceChoice
  let chain ← chainFor t a places.file
  let facts ← (source.fetch t chain by_).mapError .source
  return (registry, facts)

/-- The report of an evaluation. It breaks off if it has to wait within a limit that is too long. -/
def evaluateOn (host : Host) (registry : Registry) (facts : Facts) (o : EvaluationOptions) :
    Except Failure Report :=
  let rules := registry.rules.filter o.selects
  if facts.reference?.isSome && host.waits && o.isBeyondWaiting rules.length then .error .longWait
  else (evaluate registry facts o host.evaluation).mapError .evaluation

/-- The snapshot that a run judges and its report. -/
def judge (t : FileTree) (env : Settings.Environment) (a : Arguments) (host : Host) :
    Except Failure (Facts × Report) := do
  let settings ← (Settings.ofEnvironment env).mapError .settings
  let (registry, facts) ← load t settings a host.modules
  let report ← evaluateOn host registry facts (evaluationOptions settings a)
  return (facts, report)

/-! ## Steps -/

/-- What a run has left behind: what it printed, and the files. -/
structure Traces where
  output : String := ""
  tree : FileTree

/-- A step of a run. Of a step that fails it is known what was left behind before the action that
failed, not what that action may have left. -/
abbrev Step := EStateM Failure Traces

namespace Step

/-- The step that computes a result and leaves nothing behind. -/
def compute {α : Type} (x : Except Failure α) : Step α := fun traces =>
  match x with
  | .ok a => .ok a traces
  | .error f => .error f traces

/-- The files at a step. -/
def tree : Step FileTree := return (← get).tree

/-- The step that prints a text. -/
def print (text : String) : Step Unit :=
  modify fun traces => { traces with output := traces.output ++ text }

/-- The step that changes the files. -/
def change (f : FileTree → Except FileFault FileTree) : Step Unit := do
  let changed ← compute ((f (← tree)).mapError .file)
  modify fun traces => { traces with tree := changed }

end Step

/-! ## Output -/

/-- The layout of reports in JSON. -/
def reportLayout : Json.Layout := .lines 2

/-- A report in Markdown. -/
def markdownOf (facts : Facts) (report : Report) : String :=
  report.markdown facts (facts.reference?.getD "")

/-- The report that a run prints. -/
def printed (a : Arguments) (facts : Facts) (report : Report) : String :=
  match a.format with
  | .markdown => markdownOf facts report ++ "\n"
  | _ => report.toJson.write reportLayout ++ "\n"

/-- A report with the snapshot that it is on and the time at which it is written. -/
def reportFile (now : String) (facts : Facts) (report : Report) : Json :=
  .object [
    ("chain_id", .text facts.chainId),
    ("observed_at", .text facts.observedAt.offsetText),
    ("generated_at", .text now),
    ("report", report.toJson)]

/-- The name of the files of a report, without their ending. -/
def reportName (facts : Facts) : String :=
  "rollup_lint_" ++ facts.chainId ++ "_" ++ facts.observedAt.fileStamp

/-- The files of a report: their endings and texts. -/
def reportFiles (a : Arguments) (now : String) (facts : Facts) (report : Report) :
    List (String × String) :=
  (if a.format.hasJson then [(".json", (reportFile now facts report).write reportLayout)] else []) ++
    if a.format.hasMarkdown then [(".md", markdownOf facts report)] else []

/-- A file of a report written, and told of. -/
def writeFile (p : FilePath) (text : String) : Step Unit := do
  Step.change fun t => t.write p text
  Step.print ("Wrote " ++ p.text ++ "\n")

/-- The report printed, or written to files in a directory. -/
def present (now : String) (a : Arguments) (facts : Facts) (report : Report) : Step Unit := do
  match ← Step.compute (resolveGiven (← Step.tree) a.outputDirectory) with
  | none => Step.print (printed a facts report)
  | some directory =>
    Step.change fun t => t.ensureDirectories directory
    (reportFiles a now facts report).forM fun (ending, text) =>
      writeFile (directory / (reportName facts ++ ending)) text

/-- The snapshot and the report kept in a store, if there is one. -/
def keep (a : Arguments) (facts : Facts) (report : Report) : Step Unit := do
  match ← Step.compute (resolveGiven (← Step.tree) a.snapshotDirectory) with
  | none => return
  | some root =>
    let save (name : String) (payload : Json) : Step Unit :=
      Step.change fun t => Store.save t root facts.chainId facts.observedAt name payload
    save "facts" facts.toJson
    save "report" report.toJson

/-- A run with arguments in an environment. Its result is whether it alarms. -/
def run (env : Settings.Environment) (now : String) (a : Arguments) (host : Host) : Step Bool := do
  let (facts, report) ← Step.compute (judge (← Step.tree) env a host)
  present now a facts report
  keep a facts report
  return report.hasFindingAtLeast a.failOn

/-! ## Command lines -/

/-- What a run came to: what it left behind, and whether it alarms. -/
structure Completion extends Traces where
  alarms : Bool

/-- What a command line comes to. -/
inductive Ending
  | help
  | usage (e : UsageError)
  | failed (f : Failure)
  | completed (c : Completion)

/-- What a command line comes to in an environment, and what is left behind. -/
def perform (t : FileTree) (env : Settings.Environment) (now : String) (args : List String)
    (host : Host := {}) : Ending × Traces :=
  match read Arguments.options args with
  | .error e => (.usage e, { tree := t })
  | .ok .help => (.help, { output := helpText Arguments.options ++ "\n", tree := t })
  | .ok (.options values) =>
    match run env now (Arguments.ofValues values) host { tree := t } with
    | .error f traces => (.failed f, traces)
    | .ok alarms traces => (.completed { traces with alarms }, traces)

/-- What a command line comes to in an environment. -/
def runWith (t : FileTree) (env : Settings.Environment) (now : String) (args : List String)
    (host : Host := {}) : Ending :=
  (perform t env now args host).1

/-- The exit code of a run without an alarm, with one, and without a report. -/
def exitCode : Ending → Nat
  | .help => 0
  | .usage _ | .failed _ => 2
  | .completed c => if c.alarms then 1 else 0

/-- The line in which an error is told. -/
def errorLine (message : String) : String := "error: " ++ message

/-- What is told of an ending besides what was printed. -/
def Ending.told? : Ending → Option String
  | .usage e => some (errorLine e.message)
  | .failed f => if f.isReported then some (errorLine f.message) else none
  | .help | .completed _ => none

end Command
end RollupAudit
