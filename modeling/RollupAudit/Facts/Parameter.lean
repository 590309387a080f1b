import RollupAudit.Json.Basic
import RollupAudit.Validation.Checked
import RollupAudit.Validation.Scalar
import RollupAudit.Value.Key
import RollupAudit.Value.Text

/-!
# Parameters

Named settings of a deployment. A value is a flag, an integer, a floating-point number or a text,
and keeps the kind that it was given with. The parameters of a snapshot are in the order of their
names.
-/

namespace RollupAudit

/-- The value of a parameter. -/
inductive Parameter
  | flag (b : Bool)
  | int (n : Int)
  | float (x : Binary64)
  | text (s : String)
  deriving DecidableEq

namespace Parameter

variable {ε : Type}

/-- The document value of a parameter. -/
def toValue : Parameter → Value
  | .flag b => .bool b
  | .int n => .int n
  | .float x => .float x
  | .text s => .text s

/-- The JSON value of a parameter; what JSON has no number for is null. -/
def toJson : Parameter → Json
  | .flag b => .bool b
  | .int n => .int n
  | .float x => if x.isFinite then .float x else .null
  | .text s => .text s

/-- The exact value of a flag or number, the flags counting as zero and one. -/
def number? : Parameter → Option ExtendedDecimal
  | .text _ => none
  | p => p.toValue.number?

/-- Equality of values across the kinds: numbers and flags by their exact value. -/
def numericEq : Parameter → Parameter → Bool
  | .text s, .text t => s == t
  | .int m, .int n => m == n
  | p, q =>
    match p.number?, q.number? with
    | some x, some y => Value.sameNumber x y
    | _, _ => false

/-- The four causes of a value that is of none of the kinds. -/
def rejection (flag int float text : Cause) : Checked ε Parameter :=
  .rejected ⟨[.key "bool"], flag⟩
    [⟨[.key "int"], int⟩, ⟨[.key "float"], float⟩, ⟨[.key "str"], text⟩]

/-- The first kind that a text given as octets can be read as. -/
def ofOctetText (s : String) : Parameter :=
  match Scalar.readFlagWord s with
  | .ok b => .flag b
  | .error _ =>
    match Scalar.readIntText s with
    | .ok n => .int n
    | .error _ =>
      match Scalar.readNumberText s with
      | .ok x => .float x
      | .error _ => .text (Text.spelled s)

/-- The parameter that a value denotes. Decimal numbers become floating-point numbers. -/
def ofValue : Value → Checked ε Parameter
  | .bool b => .accepted (.flag b)
  | .int n => .accepted (.int n)
  | .float x => .accepted (.float x)
  | .text s => .accepted (.text s)
  | .decimal d =>
    match d.toBinary64? with
    | some x => .accepted (.float x)
    | none => rejection .boolType .finiteNumber .floatType .stringType
  | .octets bs =>
    match Text.decodeUtf8 bs with
    | .ok s => .accepted (ofOctetText s)
    | .error _ => rejection .boolParsing .intParsing .floatParsing .stringUnicode
  | _ => rejection .boolType .intType .floatType .stringType

/-- The refusal of a value that lists no parameters. -/
def notPairsMessage : String :=
  "parameters must be a mapping or a sequence of (name, value) pairs"

/-- The name and value that an item of a list gives. -/
def pair? (v : Value) : Option (Value × Value) :=
  match v.items? with
  | some [name, value] => some (name, value)
  | _ => none

/-- The names and values that a value gives, in order. -/
def pairs : Value → Except String (List (Value × Value))
  | .null => .ok []
  | .mapping entries => .ok entries
  | v =>
    match v.items? with
    | some items =>
      match items.mapM pair? with
      | some ps => .ok ps
      | none => .error notPairsMessage
    | none => .error notPairsMessage

/-- The refusal of a value that is no name. -/
def badNameMessage (name : Value) : String :=
  match name.shown? with
  | some s => "parameter names must be non-empty strings, got " ++ s
  | none => Text.tooManyDigitsMessage

/-- The name that a value gives: a text that is not blank. -/
def name? : Value → Option String
  | .text s => if Text.isBlankText s then none else some s
  | _ => none

/-- Names that are texts, not blank, and given once each, after the names `seen`. -/
def distinctNames (seen : List String) : List (Value × Value) → Except String (List (String × Value))
  | [] => .ok []
  | (name, value) :: rest =>
    match name? name with
    | none => .error (badNameMessage name)
    | some s =>
      if seen.contains s then .error ("duplicate parameter: " ++ s)
      else (distinctNames (s :: seen) rest).map ((s, value) :: ·)

/-- Names and values in the order of the names. -/
def byName {α : Type} (ps : List (String × α)) : List (String × α) :=
  ps.mergeSort fun p q => decide (p.1 ≤ q.1)

/-- The names and values that a value gives, in the order of the names. -/
def named (v : Value) : Except Cause (List (String × Value)) :=
  match pairs v >>= distinctNames [] with
  | .ok ps => .ok (byName ps)
  | .error reason => .error (.refused reason)

/-- The parameters that a value gives. -/
def readAll (v : Value) : Checked ε (List (String × Parameter)) :=
  match named v with
  | .error c => .reject c
  | .ok ps => Checked.items (fun p => ((ofValue p.2).under (.position 1)).map (p.1, ·)) ps

/-- The value of the parameter with a name. -/
def lookup? (name : String) (ps : List (String × Parameter)) : Option Parameter :=
  (ps.find? fun p => p.1 == name).map Prod.snd

end Parameter
end RollupAudit
