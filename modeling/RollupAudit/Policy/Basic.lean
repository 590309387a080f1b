import RollupAudit.Policy.Model

/-!
# Policies

What a policy sets for the rules, by rule id. The entry of a rule is checked against the rule's
configuration model when the rule is made; an empty entry sets nothing.
-/

namespace RollupAudit

/-- The entries of a policy by rule id. -/
structure Policy where
  rules : List (String × List (String × Value)) := []

/-- Why a policy cannot be used. -/
inductive PolicyError
  | badRule (ruleId : String) (model : String) (issues : List Issue)
  | unknownRules (ids : List String)

namespace PolicyError

/-- Issues as one line. -/
def issuesText (issues : List Issue) : String :=
  String.intercalate "; " (issues.map fun i =>
    if i.path.isEmpty then i.cause.message else i.place ++ ": " ++ i.cause.message)

/-- The issues behind an error. -/
def issues : PolicyError → List Issue
  | .badRule _ _ issues => issues
  | .unknownRules _ => []

/-- The wording of an error with a text for its issues. -/
def messageWith (cause : String) : PolicyError → String
  | .badRule ruleId _ _ => "Invalid policy for rule '" ++ ruleId ++ "': " ++ cause
  | .unknownRules ids => "Policy configures unknown rule ids: " ++ String.intercalate ", " ids

/-- The wording of an error. -/
def message (e : PolicyError) : String :=
  e.messageWith (issuesText e.issues)

end PolicyError

namespace Policy

/-- A document value that sets anything at all. -/
def anyValue {ε : Type} (v : Value) : Checked ε Value := .accepted v

open Fields in
/-- The policy that a document value denotes. -/
def ofValue {ε : Type} : Value → Checked ε Policy :=
  model "PolicyConfig" fun es =>
    Policy.mk <$> optional es "rules" [] (textMapping (textMapping anyValue))

/-- The ids of the rules that a policy configures. -/
def ids (p : Policy) : List String := p.rules.map Prod.fst

/-- The entry of a rule. -/
def ruleEntry (p : Policy) (ruleId : String) : Option (List (String × Value)) :=
  valueAt? ruleId p.rules

/-- An entry as entries of a mapping. -/
def toEntries (entry : List (String × Value)) : Entries :=
  entry.map fun e => (.text e.1, e.2)

/-- The configuration that a policy sets for a rule, or the default one if it says nothing about
the rule. -/
def config (p : Policy) (ruleId : String) (m : ConfigModel)
    (default : RuleConfig m := RuleConfig.default m) : Except PolicyError (RuleConfig m) :=
  match p.ruleEntry ruleId with
  | none => .ok default
  | some entry =>
    match (RuleConfig.ofEntries m (toEntries entry) : Checked Empty (RuleConfig m)) with
    | .accepted c => .ok c
    | .rejected i is => .error (.badRule ruleId m.name (i :: is))

end Policy
end RollupAudit
