import RollupAudit.Proofs.Command.Loading
import RollupAudit.Proofs.Command.Steps
import RollupAudit.Proofs.Evaluation.Cancellation
import RollupAudit.Proofs.Report.Consistency
import RollupAudit.Proofs.Snapshot.Source

/-!
# Exit codes

A run that returns with 1 alarms: it has judged a snapshot, and a selected rule fails or cannot tell
with a severity that is high enough both to be reported and to alarm. It returns with 0 if there is no
such rule, and with 2 if it could not judge; then it has left nothing behind.

**Results.**
* `Command.judge_eq_ok_iff`: what it takes to judge.
* `Command.perform_exitCode`: the meaning of the exit code.
-/

namespace RollupAudit

theorem Rule.isReported_iff
    {r : Rule} {f : Facts} {least : Severity} :
    r.isReported f least = true ↔
      ((r.run f).status = .fail ∨ (r.run f).status = .inconclusive) ∧
        (r.severityFor (r.run f)).atLeast least = true := by
  simp [Rule.isReported]

/-- A report alarms exactly if it has a finding of a rule that is severe enough. -/
theorem Report.Covers.hasFindingAtLeast_iff
    {report : Report} {rules : List Rule} {f : Facts} {reference : String} {least s : Severity}
    (h : report.Covers rules f reference least) :
    report.hasFindingAtLeast s = true ↔
      ∃ r ∈ rules, r.isReported f least = true ∧ (r.severityFor (r.run f)).atLeast s = true := by
  rw [Report.hasFindingAtLeast_iff]
  simp only [h.findings_perm.mem_iff, List.mem_map, List.mem_filter]
  constructor
  · rintro ⟨-, ⟨r, ⟨hr, hreported⟩, rfl⟩, hs⟩
    exact ⟨r, hr, hreported, hs⟩
  · rintro ⟨r, hr, hreported, hs⟩
    exact ⟨_, ⟨r, ⟨hr, hreported⟩, rfl⟩, hs⟩

namespace Command

variable {t : FileTree} {env : Settings.Environment} {now : String} {a : Arguments}
variable {host : Host} {registry : Registry} {facts : Facts} {report : Report}

/-- That a run loads a registry and a snapshot and evaluates them. -/
def Evaluates (t : FileTree) (env : Settings.Environment) (a : Arguments) (host : Host)
    (registry : Registry) (facts : Facts) (report : Report) : Prop :=
  ∃ settings, Settings.ofEnvironment env = .ok settings ∧
    load t settings a host.modules = .ok (registry, facts) ∧
    evaluateOn host registry facts (evaluationOptions settings a) = .ok report

theorem evaluate_of_evaluateOn
    {o : EvaluationOptions}
    (h : evaluateOn host registry facts o = .ok report) :
    evaluate registry facts o host.evaluation = .ok report := by
  unfold evaluateOn at h
  dsimp only at h
  split at h
  · cases h
  · exact mapError_eq_ok_iff.mp h

theorem evaluateOn_of_not_waits
    {o : EvaluationOptions}
    (hwaits : host.waits = false) :
    evaluateOn host registry facts o =
      (evaluate registry facts o host.evaluation).mapError .evaluation := by
  simp [evaluateOn, hwaits]

theorem judge_eq_ok_iff :
    judge t env a host = .ok (facts, report) ↔
      ∃ registry, Evaluates t env a host registry facts report := by
  simp only [judge, bind_eq_ok_iff, mapError_eq_ok_iff, pure, Except.pure, Except.ok.injEq]
  constructor
  · rintro ⟨settings, hsettings, ⟨registry, facts'⟩, hload, report', hreport, heq⟩
    obtain ⟨rfl, rfl⟩ := Prod.mk.inj heq
    exact ⟨registry, settings, hsettings, hload, hreport⟩
  · rintro ⟨registry, settings, hsettings, hload, hreport⟩
    exact ⟨settings, hsettings, (registry, facts), hload, report, hreport, rfl⟩

/-- That a rule alarms: it is of a selected category, and fails or cannot tell with a severity that is
at or above those from which on findings are reported and runs alarm. -/
structure Arguments.AlarmsBy (a : Arguments) (facts : Facts) (r : Rule) : Prop where
  selected : a.categories = [] ∨ r.category ∈ a.categories
  found : (r.run facts).status = .fail ∨ (r.run facts).status = .inconclusive
  reported : (r.severityFor (r.run facts)).atLeast a.minSeverity = true
  alarming : (r.severityFor (r.run facts)).atLeast a.failOn = true

theorem mem_selected_iff
    {settings : Settings} {r : Rule} :
    r ∈ registry.selected (evaluationOptions settings a) ↔
      r ∈ registry.rules ∧ (a.categories = [] ∨ r.category ∈ a.categories) := by
  cases h : a.categories <;>
    simp [Registry.selected, evaluationOptions, EvaluationOptions.selects, h]

theorem hasFindingAtLeast_iff_of_evaluates
    (h : Evaluates t env a host registry facts report) :
    report.hasFindingAtLeast a.failOn = true ↔ ∃ r ∈ registry.rules, a.AlarmsBy facts r := by
  obtain ⟨settings, -, -, hreport⟩ := h
  obtain ⟨-, reference, -, rfl⟩ := evaluate_eq_ok_cases (evaluate_of_evaluateOn hreport)
  have hids := registry.nodup_ids_selected (evaluationOptions settings a)
  rw [(Evaluation.report_covers (o := evaluationOptions settings a) hids).hasFindingAtLeast_iff]
  constructor
  · rintro ⟨r, hr, hreported, halarming⟩
    obtain ⟨hr, hselected⟩ := mem_selected_iff.mp hr
    obtain ⟨hfound, hleast⟩ := Rule.isReported_iff.mp hreported
    exact ⟨r, hr, hselected, hfound, hleast, halarming⟩
  · rintro ⟨r, hr, hselected, hfound, hreported, halarming⟩
    exact ⟨r, mem_selected_iff.mpr ⟨hr, hselected⟩, Rule.isReported_iff.mpr ⟨hfound, hreported⟩,
      halarming⟩

/-! ## Endings -/

/-- Whether a command line breaks off, and does not return. -/
def Ending.breaksOff : Ending → Bool
  | .failed f => !f.isReported
  | _ => false

/-- That a command line returns with a code. -/
def Ending.Returns (e : Ending) (code : Nat) : Prop := e.breaksOff = false ∧ exitCode e = code

variable {args : List String} {values : List (String × OptionValue)} {code : Nat}

theorem Ending.Returns.unique
    {e : Ending} {code code' : Nat}
    (h : e.Returns code)
    (h' : e.Returns code') :
    code = code' :=
  h.2.symm.trans h'.2

/-- A run that cannot judge fails, and leaves nothing behind. -/
theorem perform_of_judge_eq_error
    {f : Failure}
    (now : String)
    (hread : read Arguments.options args = .ok (.options values))
    (h : judge t env (.ofValues values) host = .error f) :
    perform t env now args host = (.failed f, { tree := t }) := by
  simp only [perform, hread, run_of_judge_eq_error now h]

/-- A run that judges returns with whether its report alarms, unless it fails to write the report. -/
theorem perform_of_judge_eq_ok
    (now : String)
    (hread : read Arguments.options args = .ok (.options values))
    (h : judge t env (.ofValues values) host = .ok (facts, report)) :
    (perform t env now args host).1.Returns
        (if report.hasFindingAtLeast (Arguments.ofValues values).failOn then 1 else 0) ∨
      ∃ fault traces, perform t env now args host = (.failed (.file fault), traces) := by
  rcases run_of_judge_eq_ok now h with ⟨traces, hrun⟩ | ⟨fault, traces, hrun⟩
  · simp only [perform, hread, hrun]
    exact .inl ⟨rfl, rfl⟩
  · exact .inr ⟨fault, traces, by simp only [perform, hread, hrun]⟩

theorem returns_of_no_directories
    (now : String)
    (hread : read Arguments.options args = .ok (.options values))
    (h : judge t env (.ofValues values) host = .ok (facts, report))
    (houtput : given (Arguments.ofValues values).outputDirectory = none)
    (hsnapshot : given (Arguments.ofValues values).snapshotDirectory = none) :
    (perform t env now args host).1.Returns
      (if report.hasFindingAtLeast (Arguments.ofValues values).failOn then 1 else 0) := by
  simp only [perform, hread, run_of_no_directories now h houtput hsnapshot]
  exact ⟨rfl, rfl⟩

/-- A run that evaluates returns, if it does, with 1 if a rule alarms and else with 0. -/
theorem code_of_evaluates
    (hread : read Arguments.options args = .ok (.options values))
    (h : Evaluates t env (.ofValues values) host registry facts report)
    (hreturns : (perform t env now args host).1.Returns code) :
    code = 1 ∧ (∃ r ∈ registry.rules, (Arguments.ofValues values).AlarmsBy facts r) ∨
      code = 0 ∧ ¬ ∃ r ∈ registry.rules, (Arguments.ofValues values).AlarmsBy facts r := by
  rw [← hasFindingAtLeast_iff_of_evaluates h]
  rcases perform_of_judge_eq_ok now hread (judge_eq_ok_iff.mpr ⟨registry, h⟩) with
    hcode | ⟨fault, traces, hperform⟩
  · rw [hreturns.unique hcode]
    cases report.hasFindingAtLeast (Arguments.ofValues values).failOn <;> simp
  · rw [hperform] at hreturns
    cases hreturns.1

/-- A run that does not evaluate fails, and leaves nothing behind. -/
theorem perform_of_not_evaluates
    (now : String)
    (hread : read Arguments.options args = .ok (.options values))
    (h : ∀ registry facts report, ¬ Evaluates t env (.ofValues values) host registry facts report) :
    ∃ f, perform t env now args host = (.failed f, { tree := t }) := by
  cases hjudge : judge t env (.ofValues values) host with
  | ok judged =>
    obtain ⟨registry, hevaluates⟩ := judge_eq_ok_iff.mp hjudge
    exact absurd hevaluates (h registry _ _)
  | error f => exact ⟨f, perform_of_judge_eq_error now hread hjudge⟩

theorem exists_evaluates_of_returns
    (hread : read Arguments.options args = .ok (.options values))
    (hreturns : (perform t env now args host).1.Returns code)
    (hcode : code ≠ 2) :
    ∃ registry facts report, Evaluates t env (.ofValues values) host registry facts report := by
  refine Classical.byContradiction fun hnone => hcode ?_
  simp only [not_exists] at hnone
  obtain ⟨f, hperform⟩ := perform_of_not_evaluates now hread hnone
  rw [hperform] at hreturns
  exact hreturns.2.symm

theorem Evaluates.eq_of_loads_eq
    {host' : Host} {registry' : Registry} {facts' : Facts} {report' : Report} {a' : Arguments}
    (h : Evaluates t env a host registry facts report)
    (h' : Evaluates t env a' host' registry' facts' report')
    (hload : ∀ settings, load t settings a' host'.modules = load t settings a host.modules) :
    registry = registry' ∧ facts = facts' := by
  obtain ⟨settings, hsettings, hloaded, -⟩ := h
  obtain ⟨settings', hsettings', hloaded', -⟩ := h'
  obtain rfl : settings = settings' := by simpa [hsettings] using hsettings'
  rw [hload, hloaded] at hloaded'
  simpa using hloaded'

/-- That arguments are others with severities raised, from which on findings are reported and runs
alarm. -/
structure Arguments.Raises (a' a : Arguments) : Prop where
  eq : a' = { a with failOn := a'.failOn, minSeverity := a'.minSeverity }
  failOn : a'.failOn.atLeast a.failOn = true
  minSeverity : a'.minSeverity.atLeast a.minSeverity = true

theorem Severity.atLeast_trans
    {r s t : Severity}
    (hrs : r.atLeast s = true)
    (hst : s.atLeast t = true) :
    r.atLeast t = true := by
  rw [Severity.atLeast_iff] at hrs hst ⊢
  exact Nat.le_trans hst hrs

namespace Arguments.Raises

variable {a' : Arguments}

theorem alarmsBy
    {r : Rule}
    (hraises : a'.Raises a)
    (h : a'.AlarmsBy facts r) :
    a.AlarmsBy facts r where
  selected := by
    have hselected := h.selected
    rw [hraises.eq] at hselected
    exact hselected
  found := h.found
  reported := Severity.atLeast_trans h.reported hraises.minSeverity
  alarming := Severity.atLeast_trans h.alarming hraises.failOn

theorem load_eq
    (hraises : a'.Raises a)
    (t : FileTree)
    (s : Settings)
    (modules : List String) :
    load t s a' modules = load t s a modules := by
  rw [hraises.eq]
  rfl

end Arguments.Raises

/-- The meaning of the exit code. If the run evaluates, it is 1 if a rule alarms and else 0. If it does
not, then it is 2, nothing has been printed, and the files are as they were. So with severities raised a
run that returned with 0 does not return with 1, however its evaluation is scheduled. -/
theorem perform_exitCode
    {t : FileTree} {env : Settings.Environment} {now : String} {host : Host}
    {args : List String} {values : List (String × OptionValue)} {code : Nat}
    (hread : read Arguments.options args = .ok (.options values))
    (hreturns : (perform t env now args host).1.Returns code) :
    (∀ registry facts report, Evaluates t env (.ofValues values) host registry facts report →
      code = 1 ∧ (∃ r ∈ registry.rules, (Arguments.ofValues values).AlarmsBy facts r) ∨
        code = 0 ∧ ¬ ∃ r ∈ registry.rules, (Arguments.ofValues values).AlarmsBy facts r) ∧
      ((∀ registry facts report, ¬ Evaluates t env (.ofValues values) host registry facts report) →
        code = 2 ∧ (perform t env now args host).2 = { output := "", tree := t }) ∧
      ∀ now' args' values' host', read Arguments.options args' = .ok (.options values') →
        (Arguments.ofValues values').Raises (Arguments.ofValues values) →
        host'.modules = host.modules → code = 0 →
        ¬ (perform t env now' args' host').1.Returns 1 := by
  refine ⟨fun registry facts report h => code_of_evaluates hread h hreturns, fun h => ?_, ?_⟩
  · obtain ⟨f, hperform⟩ := perform_of_not_evaluates now hread h
    rw [hperform] at hreturns ⊢
    exact ⟨hreturns.2.symm, rfl⟩
  · intro now' args' values' host' hread' hraises hmodules hcode hreturns'
    obtain ⟨registry, facts, report, h⟩ :=
      exists_evaluates_of_returns hread hreturns (by rw [hcode]; decide)
    obtain ⟨registry', facts', report', h'⟩ :=
      exists_evaluates_of_returns hread' hreturns' (by decide)
    obtain ⟨rfl, rfl⟩ := h.eq_of_loads_eq h' fun settings => by rw [hmodules, hraises.load_eq]
    subst hcode
    have hcalm : ¬ ∃ r ∈ registry.rules, (Arguments.ofValues values).AlarmsBy facts r := by
      simpa using code_of_evaluates hread h hreturns
    have halarms : ∃ r ∈ registry.rules, (Arguments.ofValues values').AlarmsBy facts r := by
      simpa using code_of_evaluates hread' h' hreturns'
    -- A rule that alarms with raised severities alarms without them.
    obtain ⟨r, hr, hrule⟩ := halarms
    exact hcalm ⟨r, hr, hraises.alarmsBy hrule⟩

/-! ## A run -/

open SnapshotSource (trialEntry minuteSnapshot)

/-- The tree with a file of a snapshot. -/
def trialFiles : FileTree where
  files := [(["f.json"], Text.encodeUtf8 ((trialEntry 60).writeAsIs Store.layout))]

def trialArguments : List String :=
  ["--facts-file", "/f.json", "--chain-id", "10", "--fail-on", "medium"]

def trialValues : List (String × OptionValue) :=
  [("--facts-file", .text "/f.json"), ("--chain-id", .text "10"), ("--fail-on", .text "medium")]

theorem read_trialArguments :
    read Arguments.options trialArguments = .ok (.options trialValues) := by
  have hroles : roles Arguments.options trialArguments = .ok [
      ("--facts-file", .option ⟨["--facts-file"], .text⟩ none), ("/f.json", .value),
      ("--chain-id", .option ⟨["--chain-id"], .text⟩ none), ("10", .value),
      ("--fail-on", .option ⟨["--fail-on"], .choice Arguments.severityNames⟩ none),
      ("medium", .value)] := by
    decide +kernel
  have hmedium : "medium" ∈ Arguments.severityNames := by decide
  rw [read, hroles]
  simp [bind, Except.bind, readFrom, readValue, OptionSpec.name, trialValues, hmedium]

/-- What the values say. -/
def trialRun : Arguments where
  factsFile := some "/f.json"
  chainId := some "10"
  failOn := .medium

theorem equips_trialFiles
    (hbuild : Registry.build {} = .ok registry) :
    Equips trialFiles {} trialRun []
      { file := some ⟨.root, ["f.json"]⟩, fixtures := none, policy := none } none registry
      (.file ⟨.root, ["f.json"]⟩) := by
  have hpath : (FilePath.ofText "/f.json").resolve ⟨.root, trialFiles.home⟩ = ⟨.root, ["f.json"]⟩ := by
    decide +kernel
  have hfile := resolveGiven_some trialFiles (by decide : "/f.json".isEmpty = false)
    (by decide +kernel)
  rw [hpath] at hfile
  refine ⟨⟨?_, rfl, fun name hname => by cases hname⟩, ⟨{}, rfl, hbuild⟩, by decide +kernel⟩
  rw [placesOf, trialRun, hfile]
  rfl

theorem fetch_trialFiles :
    SnapshotSource.fetch (.file ⟨.root, ["f.json"]⟩) trialFiles "10" none = .ok minuteSnapshot := by
  have hentry := SnapshotSource.isReadable_trialEntry (n := 60) (by decide +kernel)
  have hdocument : trialFiles.document ⟨.root, ["f.json"]⟩ = .ok (Value.ofJson (trialEntry 60)) :=
    FileTree.document_writeAsIs hentry (by decide +kernel) rfl
  have hlists : SnapshotSource.Lists trialFiles "10" (.file ⟨.root, ["f.json"]⟩)
      [Value.ofJson (trialEntry 60)] :=
    .file ⟨by decide +kernel, _, hdocument, .alone rfl rfl⟩
  have hselect : Snapshot.select? [minuteSnapshot] "10" none = some minuteSnapshot := by
    decide +kernel
  rw [SnapshotSource.fetch_eq hlists (.cons SnapshotSource.ofValue_trialEntry.1 .nil), hselect]
  rfl

theorem evaluates_trialFiles
    (hbuild : Registry.build {} = .ok registry) :
    ∃ report, Evaluates trialFiles [] trialRun {} registry minuteSnapshot report := by
  have hload : load trialFiles {} trialRun [] = .ok (registry, minuteSnapshot) :=
    load_eq_ok_iff.mpr ⟨_, _, _, "10", equips_trialFiles hbuild, rfl, fetch_trialFiles⟩
  have hwritable : minuteSnapshot.toJson.isWritable = true := by decide +kernel
  have hreference : minuteSnapshot.reference? =
      some (Facts.referenceOf (minuteSnapshot.toJson.write .compact)) := by
    simp [Facts.reference?, Facts.canonicalText?, Json.write?, hwritable]
  have hjudgements : Evaluation.judgements (evaluationOptions {} trialRun) {} minuteSnapshot
      (registry.selected (evaluationOptions {} trialRun)) = .ok _ :=
    (Evaluation.judgements_eq (.inl rfl) rfl rfl fun hparallel => by cases hparallel).trans
      (Evaluation.judged_eq_ok (Registry.escape?_of_build hbuild _ _))
  have hreport := evaluate_eq (g := registry) (o := evaluationOptions {} trialRun) (s := {}) hreference
  rw [hjudgements] at hreport
  have hevaluates : evaluateOn {} registry minuteSnapshot (evaluationOptions {} trialRun) = _ :=
    evaluateOn_of_not_waits rfl
  rw [hreport] at hevaluates
  exact ⟨_, {}, by decide +kernel, hload, hevaluates⟩

theorem alarmsBy_trialRun
    (hbuild : Registry.build {} = .ok registry) :
    ∃ r ∈ registry.rules, trialRun.AlarmsBy minuteSnapshot r := by
  have hrule : ((Registry.build {}).toOption.any fun g => g.rules.any fun r =>
      (r.run minuteSnapshot).status = .inconclusive &&
        (r.severityFor (r.run minuteSnapshot)).atLeast .medium) = true := by
    decide +kernel
  rw [hbuild] at hrule
  obtain ⟨r, hr, hstatus, hsevere⟩ : ∃ r ∈ registry.rules,
      (r.run minuteSnapshot).status = .inconclusive ∧
        (r.severityFor (r.run minuteSnapshot)).atLeast .medium = true := by
    simpa [Except.toOption] using hrule
  exact ⟨r, hr, .inl rfl, .inr hstatus, Severity.atLeast_iff.mpr (Nat.zero_le _), hsevere⟩

/-- A rule that cannot tell alarms at a severity that is not above its own. -/
theorem perform_exitCode_trialFiles :
    (perform trialFiles [] "" trialArguments).1.Returns 1 := by
  have harguments : Arguments.ofValues trialValues = trialRun := by decide +kernel
  obtain ⟨registry, hbuild⟩ : ∃ registry, Registry.build {} = .ok registry := by
    have hbuilt : (Registry.build {}).toOption.isSome = true := by decide +kernel
    obtain ⟨registry, hregistry⟩ := Option.isSome_iff_exists.mp hbuilt
    exact ⟨registry, toOption_eq_some_iff.mp hregistry⟩
  obtain ⟨report, hevaluates⟩ := evaluates_trialFiles hbuild
  rw [← harguments] at hevaluates
  have hreturns := returns_of_no_directories "" read_trialArguments
    (judge_eq_ok_iff.mpr ⟨registry, hevaluates⟩) (by decide +kernel) (by decide +kernel)
  obtain ⟨hcode, -⟩ := perform_exitCode read_trialArguments hreturns
  rcases hcode _ _ _ hevaluates with ⟨hone, -⟩ | ⟨-, hnone⟩
  · rwa [hone] at hreturns
  · rw [harguments] at hnone
    exact absurd (alarmsBy_trialRun hbuild) hnone

end Command
end RollupAudit
