import RollupAudit.Proofs.Evaluation.Judgements
import RollupAudit.Proofs.Report.Counts
import RollupAudit.Proofs.Report.Dedupe

/-!
# Reports of an evaluation

What the report of an evaluation holds: a finding for each selected rule that fails or cannot tell,
if its severity is high enough, in the order of a report, and the number of selected rules with each
status. The ids of a registry are distinct, so that no finding is lost as a duplicate of another.

**Results.**
* `evaluate_covers_selected`: the report has the findings of the selected rules and no others.
* `evaluate_parallel_eq_sequential`: the report does not depend on how the workers of a pool go about
  the rules.
-/

namespace RollupAudit

namespace Rule

/-- The verdict of a rule that fails or cannot tell. -/
def verdictOn (r : Rule) (f : Facts) : Verdict :=
  if (r.run f).status = .fail then .fail else .inconclusive

/-- Whether a report from a severity on has a finding of a rule: it fails or cannot tell, and what it
says is severe enough. -/
def isReported (r : Rule) (f : Facts) (least : Severity) : Bool :=
  ((r.run f).status = .fail || (r.run f).status = .inconclusive) &&
    (r.severityFor (r.run f)).atLeast least

/-- The finding of a rule that fails or cannot tell. -/
def reportedFinding (r : Rule) (f : Facts) (reference : String) : Finding where
  ruleId := r.id
  ruleTitle := r.title
  category := r.category
  severity := r.severityFor (r.run f)
  verdict := r.verdictOn f
  detail := (r.run f).detail
  reference
  internalError := (r.run f).internalError

theorem finding?_run
    (r : Rule)
    (f : Facts)
    (reference : String) :
    r.finding? (r.run f) reference =
      if (r.run f).status = .fail || (r.run f).status = .inconclusive then
        some (r.reportedFinding f reference)
      else none := by
  cases hs : (r.run f).status <;>
    simp [finding?, finding, Finding.verdictOf, hs, Status.verdict?, reportedFinding, verdictOn,
      Except.map, Except.toOption]

end Rule

namespace Finding

/-- A finding comes before another by category, severity or rule. -/
def PrecedesByRule (x y : Finding) : Prop :=
  x.category.position < y.category.position ∨
    x.category.position = y.category.position ∧
      (y.severity.rank < x.severity.rank ∨
        y.severity.rank = x.severity.rank ∧ x.ruleId < y.ruleId)

/-- Findings on one snapshot are in order by category, severity and rule. -/
theorem Precedes.byRule
    {x y : Finding}
    (h : x.Precedes y)
    (href : x.reference = y.reference) :
    x.PrecedesByRule y := by
  rcases h with hposition | ⟨hposition, hrank | ⟨hrank, hid | ⟨_, hlt⟩⟩⟩
  · exact .inl hposition
  · exact .inr ⟨hposition, .inl hrank⟩
  · exact .inr ⟨hposition, .inr ⟨hrank, hid⟩⟩
  · rw [href] at hlt
    exact absurd hlt (String.lt_irrefl _)

end Finding

/-- A report from a severity on that holds what rules say of facts with a reference. -/
structure Report.Covers (report : Report) (rules : List Rule) (f : Facts) (reference : String)
    (least : Severity) : Prop where
  /-- There is one finding for each rule that is reported, and no other. -/
  findings_perm : report.findings.Perm
    ((rules.filter fun r => r.isReported f least).map fun r => r.reportedFinding f reference)
  increasing : report.findings.Pairwise Finding.PrecedesByRule
  minSeverity_eq : report.minSeverity = least
  rulesEvaluated_eq : report.rulesEvaluated = rules.length
  outcomeCounts_eq : report.outcomeCounts =
    Status.all.map fun s => (s.name, ((rules.countP fun r => (r.run f).status = s : Nat) : Int))
  sum_outcomeCounts : (report.outcomeCounts.map Prod.snd).sum = rules.length

namespace Evaluation

variable {f : Facts} {o : EvaluationOptions} {rules : List Rule} {reference : String}

/-- The findings of rules are those of the rules that fail or cannot tell. -/
theorem filterMap_finding?
    (rules : List Rule) :
    (rules.map (Judgement.of f)).filterMap (fun j => j.finding? reference) =
      (rules.filter fun r => (r.run f).status = .fail || (r.run f).status = .inconclusive).map
        fun r => r.reportedFinding f reference := by
  induction rules with
  | nil => rfl
  | cons r rules ih =>
    have hhead : (Judgement.of f r).finding? reference =
        if (r.run f).status = .fail || (r.run f).status = .inconclusive then
          some (r.reportedFinding f reference)
        else none := r.finding?_run f reference
    rw [List.map_cons, List.filterMap_cons, List.filter_cons, hhead, ih]
    split <;> simp_all

/-- Rules with distinct ids have findings with distinct keys. -/
theorem nodup_key_reportedFinding
    (hids : (rules.map Rule.id).Nodup)
    (p : Rule → Bool) :
    (((rules.filter p).map fun r => r.reportedFinding f reference).map Finding.key).Nodup := by
  have hfiltered : ((rules.filter p).map Rule.id).Nodup :=
    hids.sublist (List.filter_sublist.map Rule.id)
  rw [List.map_map]
  have hpairs : ((rules.filter p).map Rule.id).map (fun id => (id, reference)) =
      (rules.filter p).map (Finding.key ∘ fun r => r.reportedFinding f reference) := by
    rw [List.map_map]
    rfl
  rw [← hpairs]
  exact hfiltered.map fun _ _ h => (Prod.mk.inj h).1

/-- The report of the judgements of rules with distinct ids covers the rules. -/
theorem report_covers
    (hids : (rules.map Rule.id).Nodup) :
    (report o reference rules (rules.map (Judgement.of f))).Covers rules f reference
      o.minSeverity := by
  let found := (rules.filter fun r =>
    (r.run f).status = .fail || (r.run f).status = .inconclusive).map
      fun r => r.reportedFinding f reference
  have hfound : (rules.map (Judgement.of f)).filterMap (fun j => j.finding? reference) = found :=
    filterMap_finding? rules
  have hfindings : (report o reference rules (rules.map (Judgement.of f))).findings =
      (dedupe found).filter fun x => x.severity.atLeast o.minSeverity := by
    rw [← hfound]
    rfl
  have hcounts : (report o reference rules (rules.map (Judgement.of f))).outcomeCounts =
      Status.all.map fun s =>
        (s.name, ((rules.countP fun r => (r.run f).status = s : Nat) : Int)) := by
    refine Eq.trans (allCounts_map _) ?_
    simp only [List.countP_map]
    rfl
  refine ⟨?_, ?_, rfl, rfl, hcounts, ?_⟩
  · rw [hfindings]
    -- Distinct ids give distinct keys, so that every finding is kept.
    have hkept : (dedupe found).Perm found :=
      dedupe_perm_of_nodup_key (nodup_key_reportedFinding hids _)
    refine (hkept.filter _).trans (List.Perm.of_eq ?_)
    rw [List.filter_map, List.filter_filter]
    congr 1
    apply List.filter_congr
    intro r _
    simp [Rule.isReported, Rule.reportedFinding, Bool.and_comm]
  · rw [hfindings]
    have hreference : ∀ x ∈ dedupe found, x.reference = reference := by
      intro x hx
      obtain ⟨r, _, rfl⟩ := List.mem_map.mp (mem_dedupe_iff.mp hx).1
      rfl
    have hordered : (dedupe found).Pairwise Finding.PrecedesByRule :=
      (pairwise_precedes_dedupe found).imp_of_mem fun hx hy h =>
        h.byRule ((hreference _ hx).trans (hreference _ hy).symm)
    exact hordered.sublist List.filter_sublist
  · rw [hcounts]
    have hsum := sum_countP_status (fun r : Rule => (r.run f).status) rules
    simp only [Status.all, List.map_cons, List.map_nil, List.sum_cons, List.sum_nil] at hsum ⊢
    omega

end Evaluation

/-- Rules to try evaluations with: one that breaks down, one that gives no outcome, one that fails
with a severity of its own, and one that passes. -/
def trialRules : List Rule := [
  { id := "ORD-9", title := "Ordering", category := .oracle, defaultSeverity := .low
    check := fun _ => .faults (.raised "KeyError" "'bound'") },
  { id := "UPG-1", title := "Upgrades", category := .upgrade, defaultSeverity := .info
    check := fun _ => .faults (.notOutcome "bool") },
  { id := "SEQ-2", title := "Sequencing", category := .sequencer
    check := fun f => .gives (.fail ("chain " ++ f.chainId) (some .critical)) },
  { id := "SEQ-1", title := "Sequencers", category := .sequencer
    check := fun _ => .gives (.passed "listed") }]

/-- The registry of the rules to try. -/
def trialRegistry : Registry where
  rules := trialRules
  nodup_ids := by decide

/-- A snapshot of which nothing is known but the chain. -/
def trialFacts : Facts where
  chainId := "10"
  observedAt := ⟨0, by decide⟩

theorem trialFacts_reference : ∃ reference, trialFacts.reference? = some reference := by
  have hwritable : trialFacts.toJson.isWritable = true := by decide +kernel
  refine ⟨Facts.referenceOf (trialFacts.toJson.write .compact), ?_⟩
  simp [Facts.reference?, Facts.canonicalText?, Json.write?, hwritable]

/-- Two workers at the four rules: the third is finished before the first, and the last that is
taken up before it is finished. -/
def trialEvents : List PoolEvent :=
  [.start 2, .start 0, .finish 2, .start 3, .finish 0, .start 1, .finish 1, .finish 3]

/-- Options under which two workers run the rules side by side. -/
def trialOptions : EvaluationOptions where
  minSeverity := .low
  parallel := true
  maxWorkers := some 2

/-- What goes on around an evaluation of the rules to try. -/
def trialSurroundings : Surroundings where
  events := fun _ => trialEvents

theorem trialEvents_schedules : trialOptions.schedules trialSurroundings 4 = true := by decide

section Evaluate

variable {g : Registry} {f : Facts} {o : EvaluationOptions} {s : Surroundings} {reference : String}

theorem Registry.nodup_ids_selected
    (g : Registry)
    (o : EvaluationOptions) :
    ((g.selected o).map Rule.id).Nodup :=
  g.nodup_ids.sublist (List.filter_sublist.map Rule.id)

theorem evaluate_eq
    (href : f.reference? = some reference) :
    evaluate g f o s =
      (Evaluation.judgements o s f (g.selected o)).map
        (Evaluation.report o reference (g.selected o)) := by
  unfold evaluate
  rw [href]
  rfl

/-- An undisturbed evaluation without a time limit gives the report of what the selected rules come to
on their own. -/
theorem evaluate_eq_judged
    (href : f.reference? = some reference)
    (hcancel : o.Undisturbed s f (g.selected o))
    (htime : o.timeLimit = none)
    (hworkers : o.lacksWorkers (g.selected o).length = false)
    (hevents : o.parallel = true → 1 < (g.selected o).length →
      o.schedules s (g.selected o).length = true) :
    evaluate g f o s =
      (Evaluation.judged f (g.selected o)).map (Evaluation.report o reference (g.selected o)) := by
  rw [evaluate_eq href, Evaluation.judgements_eq hcancel htime hworkers hevents]

/-- If moreover no error leaves a run, it gives the report of the judgements that the selected rules make
each on its own. -/
theorem evaluate_eq_ok
    (href : f.reference? = some reference)
    (hcancel : o.Undisturbed s f (g.selected o))
    (htime : o.timeLimit = none)
    (hworkers : o.lacksWorkers (g.selected o).length = false)
    (hevents : o.parallel = true → 1 < (g.selected o).length →
      o.schedules s (g.selected o).length = true)
    (hescape : Evaluation.escape? f (g.selected o) = none) :
    evaluate g f o s =
      .ok (Evaluation.report o reference (g.selected o)
        ((g.selected o).map (Judgement.of f))) := by
  rw [evaluate_eq_judged href hcancel htime hworkers hevents, Evaluation.judged_eq_ok hescape]
  rfl

/-- An undisturbed evaluation without a time limit covers the selected rules if no error leaves the run
of one, unless rules are to run side by side and no worker may take one up: then it gives no report. -/
theorem evaluate_covers_selected
    (href : f.reference? = some reference)
    (hcancel : o.Undisturbed s f (g.selected o))
    (htime : o.timeLimit = none)
    (hevents : o.parallel = true → 1 < (g.selected o).length →
      o.lacksWorkers (g.selected o).length = false → o.schedules s (g.selected o).length = true) :
    if o.lacksWorkers (g.selected o).length then
      evaluate g f o s = .error .noWorkers
    else
      (∀ r ∈ g.selected o, (r.attempt f).escape? = none) →
        ∃ report, evaluate g f o s = .ok report ∧
          report.Covers (g.selected o) f reference o.minSeverity := by
  split
  · rename_i hworkers
    rw [evaluate_eq href, Evaluation.judgements_eq_noWorkers hworkers]
    rfl
  · rename_i hworkers
    have hworkers : o.lacksWorkers (g.selected o).length = false := by simpa using hworkers
    intro hescape
    have hok := evaluate_eq_ok href hcancel htime hworkers
      (fun hparallel hmany => hevents hparallel hmany hworkers)
      (Evaluation.escape?_eq_none_iff.mpr hescape)
    exact ⟨_, hok, Evaluation.report_covers (g.nodup_ids_selected o)⟩

/-- Two workers cover the four rules to try. -/
theorem evaluate_covers_trialRules :
    ∃ reference report, evaluate trialRegistry trialFacts trialOptions trialSurroundings = .ok report ∧
      report.Covers trialRules trialFacts reference .low := by
  obtain ⟨reference, href⟩ := trialFacts_reference
  have hcovers := @evaluate_covers_selected trialRegistry trialFacts trialOptions trialSurroundings
    reference href (.inl rfl) rfl (fun _ _ _ => trialEvents_schedules)
  exact ⟨reference, hcovers (by decide)⟩

/-- With a bound of no rules at one time there is no report of the rules to try. -/
theorem evaluate_trialRules_noWorkers :
    ∃ reference, trialFacts.reference? = some reference ∧
      ¬ ∃ report,
        evaluate trialRegistry trialFacts { parallel := true, maxWorkers := some 0 } = .ok report ∧
          report.Covers trialRules trialFacts reference .info := by
  obtain ⟨reference, href⟩ := trialFacts_reference
  refine ⟨reference, href, ?_⟩
  rintro ⟨report, hreport, -⟩
  rw [evaluate_eq href, Evaluation.judgements_eq_noWorkers (by decide)] at hreport
  simp [Except.map] at hreport

/-- Rules that run side by side, in whatever order the workers take them up and finish them, give what the
same rules give one by one: one report, unless an error leaves the run of one of them. -/
theorem evaluate_parallel_eq_sequential
    (href : f.reference? = some reference)
    (hcancel : o.cancelled = none)
    (htime : o.timeLimit = none)
    (hworkers : ∀ n, o.maxWorkers = some n → 0 < n)
    (hevents : 1 < (g.selected o).length → o.schedules s (g.selected o).length = true)
    (s' : Surroundings) :
    evaluate g f { o with parallel := true } s = evaluate g f { o with parallel := false } s' ∧
      (∀ indent, (evaluate g f { o with parallel := true } s).map (·.text? indent) =
        (evaluate g f { o with parallel := false } s').map (·.text? indent)) ∧
      ((∀ r ∈ g.selected o, (r.attempt f).escape? = none) →
        ∃ report, evaluate g f { o with parallel := true } s = .ok report ∧
          evaluate g f { o with parallel := false } s' = .ok report) := by
  have hfree (parallel : Bool) :
      { o with parallel }.lacksWorkers (g.selected o).length = false := by
    cases hmax : o.maxWorkers with
    | none => simp [EvaluationOptions.lacksWorkers]
    | some n =>
      have := hworkers n hmax
      simp [EvaluationOptions.lacksWorkers, this]
  have hparallel := @evaluate_eq_judged g f { o with parallel := true } s reference href (.inl hcancel)
    htime (hfree true) fun _ hmany => hevents hmany
  have hsequential := @evaluate_eq_judged g f { o with parallel := false } s' reference href
    (.inl hcancel) htime (hfree false) fun h => by cases h
  have hsame : evaluate g f { o with parallel := true } s =
      evaluate g f { o with parallel := false } s' :=
    hparallel.trans hsequential.symm
  refine ⟨hsame, fun indent => by rw [hsame], fun hescape => ?_⟩
  rw [hsame, hsequential]
  have hjudged : Evaluation.judged f (g.selected { o with parallel := false }) = .ok _ :=
    Evaluation.judged_eq_ok (Evaluation.escape?_eq_none_iff.mpr hescape)
  rw [hjudged]
  exact ⟨_, rfl, rfl⟩

/-- Two workers give the report of the four rules to try that one by one gives. -/
theorem evaluate_trialRules_parallel_eq_sequential :
    ∃ report,
      evaluate trialRegistry trialFacts trialOptions trialSurroundings = .ok report ∧
      evaluate trialRegistry trialFacts { minSeverity := .low, maxWorkers := some 2 } = .ok report := by
  obtain ⟨reference, href⟩ := trialFacts_reference
  obtain ⟨-, -, hreport⟩ :=
    @evaluate_parallel_eq_sequential trialRegistry trialFacts trialOptions trialSurroundings
      reference href rfl rfl (by intro n hn; cases hn; decide)
      (fun _ => trialEvents_schedules) {}
  exact hreport (by decide)

end Evaluate
end RollupAudit
