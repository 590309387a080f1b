import RollupAudit.Json.Basic
import RollupAudit.Number.Decimal
import RollupAudit.Time.Timestamp

/-!
# Document values

What a document, a policy or an override holds before it is checked: a value of one of the kinds
that JSON and YAML documents and programs produce. The entries of a mapping are in order.
-/

namespace RollupAudit

/-- A value of a document. -/
inductive Value
  | null
  | bool (b : Bool)
  | int (n : Int)
  | float (x : Binary64)
  | text (s : String)
  | decimal (d : ExtendedDecimal)
  | timestamp (t : Timestamp)
  | date (d : CalendarDate)
  | octets (bs : List UInt8)
  | list (items : List Value)
  | tuple (items : List Value)
  | set (items : List Value)
  | mapping (entries : List (Value × Value))

namespace Value

instance : Inhabited Value := ⟨.null⟩

/-- The name of the kind of a value, as messages show it. -/
def kindName : Value → String
  | .null => "NoneType"
  | .bool _ => "bool"
  | .int _ => "int"
  | .float _ => "float"
  | .text _ => "str"
  | .decimal _ => "Decimal"
  | .timestamp _ => "datetime"
  | .date _ => "date"
  | .octets _ => "bytes"
  | .list _ => "list"
  | .tuple _ => "tuple"
  | .set _ => "set"
  | .mapping _ => "dict"

/-- Whether a value counts as given: not null, false, zero or empty. -/
def isGiven : Value → Bool
  | .null => false
  | .bool b => b
  | .int n => n != 0
  | .float x => x != .zero false && x != .zero true
  | .text s => !s.isEmpty
  | .decimal (.finite d) => !d.isZero
  | .octets bs => !bs.isEmpty
  | .list items => !items.isEmpty
  | .tuple items => !items.isEmpty
  | .set items => !items.isEmpty
  | .mapping entries => !entries.isEmpty
  | _ => true

def isText : Value → Bool
  | .text _ => true
  | _ => false

def isMapping : Value → Bool
  | .mapping _ => true
  | _ => false

/-- The entries of a mapping. -/
def entries? : Value → Option (List (Value × Value))
  | .mapping entries => some entries
  | _ => none

/-- The items of a list or tuple. -/
def items? : Value → Option (List Value)
  | .list items => some items
  | .tuple items => some items
  | _ => none

mutual

/-- The value that a JSON value denotes. -/
def ofJson : Json → Value
  | .null => .null
  | .bool b => .bool b
  | .int n => .int n
  | .float x => .float x
  | .text s => .text s
  | .array items => .list (ofJsonItems items)
  | .object members => .mapping (ofJsonMembers members)

/-- The values of the items of an array. -/
def ofJsonItems : List Json → List Value
  | [] => []
  | v :: vs => ofJson v :: ofJsonItems vs

/-- The entries of an object. -/
def ofJsonMembers : List (String × Json) → List (Value × Value)
  | [] => []
  | (key, v) :: ms => (.text key, ofJson v) :: ofJsonMembers ms

end

/-- The value of a text key in a list of entries. -/
def lookup? (key : String) : List (Value × Value) → Option Value
  | [] => none
  | (.text k, v) :: rest => if k = key then some v else lookup? key rest
  | _ :: rest => lookup? key rest

/-- The value of a text key of a mapping. -/
def get? (v : Value) (key : String) : Option Value :=
  v.entries?.bind (lookup? key)

/-- An optional value, null when absent. -/
def ofOption {α : Type} (f : α → Value) : Option α → Value
  | none => .null
  | some a => f a

end Value
end RollupAudit
