import RollupAudit.Text.Numeral
import RollupAudit.Time.InternetTime

/-!
# Issues

What can be wrong with a value of a document: a place, as the keys and positions that lead to it,
and a cause with a code and a wording.
-/

namespace RollupAudit

/-- A step from a value to a part of it. -/
inductive PathStep
  | key (name : String)
  | position (n : Int)
  deriving DecidableEq, Repr

/-- A step as text. -/
def PathStep.text : PathStep → String
  | .key name => name
  | .position n => Text.intText n

/-- What is wrong with a value. -/
inductive Cause
  | missing
  | extraForbidden
  | modelType (model : String)
  | frozenInstance
  | stringType
  | stringUnicode
  | boolType
  | boolParsing
  | intType
  | intParsing
  | intParsingSize
  | intFromFloat
  | floatType
  | floatParsing
  | finiteNumber
  | atLeast (bound : Int)
  | atMost (bound : Int)
  | decimalType
  | decimalParsing
  | timestamp (fault : TimestampFault)
  | tupleType
  | listType
  | dictType
  | choice (allowed : List String)
  | refused (text : String)
  deriving DecidableEq, Repr

/-- The code of a cause. -/
def Cause.code : Cause → String
  | .missing => "missing"
  | .extraForbidden => "extra_forbidden"
  | .modelType _ => "model_type"
  | .frozenInstance => "frozen_instance"
  | .stringType => "string_type"
  | .stringUnicode => "string_unicode"
  | .boolType => "bool_type"
  | .boolParsing => "bool_parsing"
  | .intType => "int_type"
  | .intParsing => "int_parsing"
  | .intParsingSize => "int_parsing_size"
  | .intFromFloat => "int_from_float"
  | .floatType => "float_type"
  | .floatParsing => "float_parsing"
  | .finiteNumber => "finite_number"
  | .atLeast _ => "greater_than_equal"
  | .atMost _ => "less_than_equal"
  | .decimalType => "decimal_type"
  | .decimalParsing => "decimal_parsing"
  | .timestamp (.text _) => "datetime_from_date_parsing"
  | .timestamp (.unix _) => "datetime_parsing"
  | .timestamp .type => "datetime_type"
  | .tupleType => "tuple_type"
  | .listType => "list_type"
  | .dictType => "dict_type"
  | .choice _ => "enum"
  | .refused _ => "value_error"

/-- Words in quotes, with commas between them and an "or" before the last. -/
def alternatives (words : List String) : String :=
  let quoted := words.map fun w => "'" ++ w ++ "'"
  match quoted.getLast? with
  | none => ""
  | some last =>
    if quoted.length = 1 then last
    else String.intercalate ", " quoted.dropLast ++ " or " ++ last

/-- The wording of a cause. -/
def Cause.message : Cause → String
  | .missing => "Field required"
  | .extraForbidden => "Extra inputs are not permitted"
  | .modelType model => "Input should be a valid dictionary or instance of " ++ model
  | .frozenInstance => "Instance is frozen"
  | .stringType => "Input should be a valid string"
  | .stringUnicode =>
    "Input should be a valid string, unable to parse raw data as a unicode string"
  | .boolType => "Input should be a valid boolean"
  | .boolParsing => "Input should be a valid boolean, unable to interpret input"
  | .intType => "Input should be a valid integer"
  | .intParsing => "Input should be a valid integer, unable to parse string as an integer"
  | .intParsingSize => "Unable to parse input string as an integer, exceeded maximum size"
  | .intFromFloat => "Input should be a valid integer, got a number with a fractional part"
  | .floatType => "Input should be a valid number"
  | .floatParsing => "Input should be a valid number, unable to parse string as a number"
  | .finiteNumber => "Input should be a finite number"
  | .atLeast bound => "Input should be greater than or equal to " ++ Text.intText bound
  | .atMost bound => "Input should be less than or equal to " ++ Text.intText bound
  | .decimalType => "Decimal input should be an integer, float, string or Decimal object"
  | .decimalParsing => "Input should be a valid decimal"
  | .timestamp fault => fault.message
  | .tupleType => "Input should be a valid tuple"
  | .listType => "Input should be a valid list"
  | .dictType => "Input should be a valid dictionary"
  | .choice allowed => "Input should be " ++ alternatives allowed
  | .refused text => "Value error, " ++ text

/-- A cause at a place. -/
structure Issue where
  path : List PathStep
  cause : Cause
  deriving DecidableEq, Repr

/-- The issue seen from the value that holds its place after a step. -/
def Issue.under (step : PathStep) (i : Issue) : Issue :=
  { i with path := step :: i.path }

/-- A place as its steps with dots between them. -/
def Issue.place (i : Issue) : String :=
  String.intercalate "." (i.path.map PathStep.text)

end RollupAudit
