import RollupAudit.Policy.Model
import RollupAudit.Text.Split

/-!
# Schemas of rule configurations

The JSON schema of a configuration model, as the catalogue shows it.
-/

namespace RollupAudit

/-- A word with a capital. -/
def capitalized (word : List Char) : List Char :=
  match word with
  | [] => []
  | c :: cs => c.toUpper :: cs

/-- The words of a field name, with capitals. -/
def fieldTitle (name : String) : String :=
  String.intercalate " " ((Text.split '_' name).map fun w => String.ofList (capitalized w.toList))

/-- The members of the schema of an integer. -/
def integerSchema (title : String) (default : Nat) (least : Nat) (greatest : Option Nat) :
    List (String × Json) :=
  [("default", .int default)] ++ (greatest.elim [] fun n => [("maximum", .int n)]) ++
    [("minimum", .int least), ("title", .text title), ("type", .text "integer")]

/-- The schema of a constant. -/
def Constant.schema (c : Constant) : Json :=
  let title := fieldTitle c.name
  match c with
  | ⟨_, .seconds, (d : Nat)⟩ => .object (integerSchema title d 0 (some Duration.maxSeconds))
  | ⟨_, .count least, (d : Nat)⟩ => .object (integerSchema title d least none)
  | ⟨_, .parameterName, (d : String)⟩ =>
    .object [("default", .text d), ("title", .text title), ("type", .text "string")]
  | ⟨_, .names, _⟩ =>
    .object [("items", .object [("type", .text "string")]), ("title", .text title),
      ("type", .text "array")]
  | ⟨_, .ratio, (d : Decimal)⟩ =>
    .object [
      ("anyOf", .array [
        .object [("minimum", .float (.zero false)), ("type", .text "number")],
        .object [("type", .text "string")]]),
      ("default", .text d.text), ("title", .text title)]

namespace ConfigModel

/-- The schema of the switch of a rule. -/
def enabledSchema : Json :=
  .object [("default", .bool true), ("title", .text "Enabled"), ("type", .text "boolean")]

/-- The schema of the severity of a rule, which may be null. -/
def severitySchema : Json :=
  .object [
    ("anyOf", .array [
      .object [("$ref", .text "#/$defs/Severity")],
      .object [("type", .text "null")]]),
    ("default", .null)]

/-- The schema of severities. -/
def severitiesSchema : Json :=
  .object [
    ("enum", .array (Severity.all.map fun s => .text s.name)),
    ("title", .text "Severity"), ("type", .text "string")]

/-- The schema of a model. -/
def schema (m : ConfigModel) : Json :=
  .object [
    ("$defs", .object [("Severity", severitiesSchema)]),
    ("additionalProperties", .bool false),
    ("properties", .object (
      [("enabled", enabledSchema), ("severity", severitySchema)] ++
        m.constants.map fun c => (c.name, c.schema))),
    ("title", .text m.name),
    ("type", .text "object")]

end ConfigModel
end RollupAudit
