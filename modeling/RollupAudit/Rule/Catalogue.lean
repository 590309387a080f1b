import RollupAudit.Json.Writer
import RollupAudit.Policy.Schema
import RollupAudit.Rule.Registry
import RollupAudit.Yaml.Writer

/-!
# Catalogues

The list of the rules of a registry with what a policy can set for each, in the order of the ids.
The catalogue of a registry without rules lists the built-in rules.
-/

namespace RollupAudit

/-- What a catalogue says about a rule. -/
structure CatalogueEntry where
  id : String
  title : String
  category : Category
  defaultSeverity : Severity
  moduleName : String
  className : String
  model : ConfigModel
  deriving DecidableEq, Repr

namespace CatalogueEntry

/-- The entry of a rule. -/
def ofRule (r : Rule) : CatalogueEntry where
  id := r.id
  title := r.title
  category := r.category
  defaultSeverity := r.defaultSeverity
  moduleName := r.moduleName
  className := r.className
  model := r.model

/-- An entry in JSON. -/
def toJson (e : CatalogueEntry) : Json :=
  .object [
    ("rule_id", .text e.id),
    ("rule_title", .text e.title),
    ("category", .text e.category.name),
    ("default_severity", .text e.defaultSeverity.name),
    ("module", .text e.moduleName),
    ("class_name", .text e.className),
    ("config_model", .text e.model.name),
    ("config_schema", e.model.schema)]

end CatalogueEntry

/-- The built-in rules as the policy without entries configures them. -/
def Builtin.rules : List Rule := all.map fun b => b.rule (RuleConfig.default b.model)

namespace Catalogue

/-- The entries of rules in the order of their ids. -/
def ofRules (rules : List Rule) : List CatalogueEntry :=
  (rules.map CatalogueEntry.ofRule).mergeSort fun a b => decide (a.id ≤ b.id)

/-- The catalogue of the built-in rules. -/
def builtin : List CatalogueEntry := ofRules Builtin.rules

/-- The catalogue of a registry. -/
def ofRegistry (g : Registry) : List CatalogueEntry :=
  if g.rules.isEmpty then builtin else ofRules g.rules

/-- How a catalogue is written. -/
inductive Format
  | yaml
  | json
  deriving DecidableEq, Repr

/-- The names of the formats. -/
def Format.name : Format → String
  | .yaml => "yaml"
  | .json => "json"

/-- All formats. -/
def Format.all : List Format := [.yaml, .json]

/-- The text of a catalogue. -/
def text (entries : List CatalogueEntry) : Format → String
  | .json => (Json.array (entries.map CatalogueEntry.toJson)).write (.lines 2)
  | .yaml => Yaml.writeItems (entries.map CatalogueEntry.toJson)

end Catalogue
end RollupAudit
