import RollupAudit.Facts.Basic
import RollupAudit.Policy.Basic
import RollupAudit.Report.Finding
import RollupAudit.Rule.Attempt

/-!
# Rules

A rule is one check of facts with what the policy sets for it. The kind of a rule is the rule before
the policy is known. The severity of a finding is the policy's if it sets one, else the outcome's,
else the rule's own.
-/

namespace RollupAudit

/-- A rule with its configuration. -/
structure Rule where
  id : String
  title : String
  category : Category
  defaultSeverity : Severity := .medium
  model : ConfigModel := .plain
  config : RuleConfig model := RuleConfig.default model
  /-- The check that a rule makes when it is not disabled. -/
  check : Facts → Attempt
  /-- The module and the name under which the catalogue lists the rule. -/
  moduleName : String := "common.lint_engine.rule"
  className : String := "PredicateRule"

/-- A rule without its configuration. A kind without a category can be known, but makes no rule. -/
structure RuleKind where
  id : String
  title : String := ""
  category : Option Category := none
  defaultSeverity : Severity := .medium
  model : ConfigModel := .plain
  check : model.Values → Facts → Attempt
  moduleName : String
  className : String

/-- Why there is no such rule. -/
inductive RuleError
  | noId
  | noCategory (id : String)
  deriving DecidableEq, Repr

/-- The wording of an error. -/
def RuleError.message : RuleError → String
  | .noId => "Rule must define rule_id"
  | .noCategory id => "Rule " ++ id ++ " must define a Category"

namespace Rule

/-- A rule around a function, supplied at run time. Without a title it has its id for one. -/
def custom (id : String) (category : Option Category) (check : Facts → Attempt)
    (title : String := "") (defaultSeverity : Severity := .medium)
    (config : RuleConfig .plain := RuleConfig.default .plain) : Except RuleError Rule :=
  if id.isEmpty then .error .noId
  else
    match category with
    | none => .error (.noCategory id)
    | some category =>
      .ok { id, title := if title.isEmpty then id else title, category, defaultSeverity,
            model := .plain, config, check }

/-- The severity of a rule. -/
def severity (r : Rule) : Severity := r.config.severity.getD r.defaultSeverity

/-- The severity of an outcome of a rule. -/
def severityFor (r : Rule) (o : Outcome) : Severity :=
  r.config.severity.getD (o.severity.getD r.defaultSeverity)

/-- The outcome of a rule that the policy disables. -/
def disabledOutcome : Outcome := .notApplicable "Rule disabled by policy configuration."

/-- The run of a rule on facts. A disabled rule makes no check. -/
def attempt (r : Rule) (f : Facts) : Attempt :=
  if r.config.enabled then r.check f else .gives disabledOutcome

/-- The outcome of a rule on facts. -/
def run (r : Rule) (f : Facts) : Outcome := (r.attempt f).outcome

/-- The finding that an outcome of a rule is, or why it is none. -/
def finding (r : Rule) (o : Outcome) (reference : String) : Except Cause Finding :=
  (Finding.verdictOf o.status).map fun verdict =>
    { ruleId := r.id
      ruleTitle := r.title
      category := r.category
      severity := r.severityFor o
      verdict
      detail := o.detail
      reference
      internalError := o.internalError }

/-- The finding of an outcome that is reported. -/
def finding? (r : Rule) (o : Outcome) (reference : String) : Option Finding :=
  (r.finding o reference).toOption

/-- How a rule is shown. -/
def shown (r : Rule) : String := "<" ++ r.className ++ " " ++ r.id ++ ">"

end Rule

/-- The rule of a kind with a configuration. -/
def RuleKind.rule (k : RuleKind) (config : RuleConfig k.model) : Except RuleError Rule :=
  if k.id.isEmpty then .error .noId
  else
    match k.category with
    | none => .error (.noCategory k.id)
    | some category =>
      .ok { id := k.id, title := k.title, category, defaultSeverity := k.defaultSeverity,
            model := k.model, config, check := k.check config.values,
            moduleName := k.moduleName, className := k.className }

end RollupAudit
