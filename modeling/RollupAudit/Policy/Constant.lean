import RollupAudit.Json.Basic
import RollupAudit.Number.DecimalText
import RollupAudit.Validation.Fields

/-!
# Policy constants

The constants that a policy can set for a rule, described one by one: a name, a kind and a default.
The kind fixes what a constant is, how it is read and how it is shown.
-/

namespace RollupAudit

/-- The kind of a constant. -/
inductive ConstantKind
  /-- A number of whole seconds that a duration can hold. -/
  | seconds
  /-- A count with a lower bound. -/
  | count (least : Nat)
  /-- The name of a parameter. -/
  | parameterName
  /-- A list of names. -/
  | names
  /-- A nonnegative decimal number. -/
  | ratio
  deriving DecidableEq, Repr

namespace ConstantKind

/-- What a constant of a kind is. -/
def Carrier : ConstantKind → Type
  | .seconds => Nat
  | .count _ => Nat
  | .parameterName => String
  | .names => List String
  | .ratio => Decimal

/-- A nonnegative integer, at least `low` and at most `high` if a bound is given. -/
def readNatBetween (low : Nat) (high : Option Nat) (v : Value) : Except Cause Nat := do
  let n ← Scalar.readIntFrom low v
  match high with
  | some high => if high < n.toNat then .error (.atMost high) else .ok n.toNat
  | none => .ok n.toNat

/-- A constant of a kind. -/
def read {ε : Type} : (k : ConstantKind) → Value → Checked ε k.Carrier
  | .seconds => Fields.scalar (readNatBetween 0 (some Duration.maxSeconds))
  | .count least => Fields.scalar (readNatBetween least none)
  | .parameterName => Fields.scalar Scalar.readText
  | .names => Fields.listOf .listType (Fields.scalar Scalar.readText)
  | .ratio => Fields.scalar Scalar.readAmount

/-- A constant as a document value. -/
def toValue : (k : ConstantKind) → k.Carrier → Value
  | .seconds, (n : Nat) => .int n
  | .count _, (n : Nat) => .int n
  | .parameterName, (s : String) => .text s
  | .names, (ss : List String) => .list (ss.map .text)
  | .ratio, (d : Decimal) => .decimal (.finite d)

/-- A constant in JSON. -/
def toJson : (k : ConstantKind) → k.Carrier → Json
  | .seconds, (n : Nat) => .int n
  | .count _, (n : Nat) => .int n
  | .parameterName, (s : String) => .text s
  | .names, (ss : List String) => .array (ss.map .text)
  | .ratio, (d : Decimal) => .text d.text

end ConstantKind

/-- A constant that a policy can set. -/
structure Constant where
  name : String
  kind : ConstantKind
  default : kind.Carrier

/-- A value for each of a list of constants. -/
def Constants : List Constant → Type
  | [] => Unit
  | c :: cs => c.kind.Carrier × Constants cs

namespace Constants

/-- The default of each constant. -/
def defaults : (cs : List Constant) → Constants cs
  | [] => ()
  | c :: cs => (c.default, defaults cs)

/-- The constants that the entries of a mapping set, the others having their defaults. -/
def read {ε : Type} : (cs : List Constant) → Entries → Checked ε (Constants cs)
  | [], _ => .accepted ()
  | c :: cs, es =>
    ((Fields.optional es c.name c.default c.kind.read).map fun a rest => (a, rest)).ap (read cs es)

/-- The constants as entries of a mapping. -/
def toEntries : (cs : List Constant) → Constants cs → Entries
  | [], _ => []
  | c :: cs, (a, rest) => (.text c.name, c.kind.toValue a) :: toEntries cs rest

/-- The constants as members of a JSON object. -/
def toMembers : (cs : List Constant) → Constants cs → List (String × Json)
  | [], _ => []
  | c :: cs, (a, rest) => (c.name, c.kind.toJson a) :: toMembers cs rest

end Constants
end RollupAudit
