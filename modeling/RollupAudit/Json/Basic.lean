import RollupAudit.Number.Binary64
import RollupAudit.Text.Numeral

/-!
# JSON values

JSON values with integers of any size beside binary floating-point numbers. The members of an
object are in order, and a key that is set again keeps its place.
-/

namespace RollupAudit

/-- A list of keys and values with the value of a key replaced in place, or added at the end. -/
def setEntry {κ ν : Type} [BEq κ] (key : κ) (value : ν) : List (κ × ν) → List (κ × ν)
  | [] => [(key, value)]
  | (k, v) :: rest => if k == key then (k, value) :: rest else (k, v) :: setEntry key value rest

/-- A list of keys and values in which a repeated key keeps its first place and last value. -/
def ofEntries {κ ν : Type} [BEq κ] (entries : List (κ × ν)) : List (κ × ν) :=
  entries.foldl (fun acc e => setEntry e.1 e.2 acc) []

/-- The value of a key. -/
def valueAt? {κ ν : Type} [BEq κ] (key : κ) (entries : List (κ × ν)) : Option ν :=
  (entries.find? fun e => e.1 == key).map Prod.snd

/-- A JSON value. -/
inductive Json
  | null
  | bool (b : Bool)
  | int (n : Int)
  | float (x : Binary64)
  | text (s : String)
  | array (items : List Json)
  | object (members : List (String × Json))

namespace Json

instance : Inhabited Json := ⟨.null⟩

mutual

/-- Whether every integer of a value has few enough digits to be written. -/
def isWritable : Json → Bool
  | .int n => Text.isWritable n
  | .array items => itemsWritable items
  | .object members => membersWritable members
  | _ => true

/-- Whether all items of an array can be written. -/
def itemsWritable : List Json → Bool
  | [] => true
  | v :: vs => isWritable v && itemsWritable vs

/-- Whether all members of an object can be written. -/
def membersWritable : List (String × Json) → Bool
  | [] => true
  | (_, v) :: ms => isWritable v && membersWritable ms

end

/-- An optional value, null when absent. -/
def ofOption {α : Type} (f : α → Json) : Option α → Json
  | none => .null
  | some a => f a

/-- The member of an object with a key. -/
def get? (v : Json) (key : String) : Option Json :=
  match v with
  | .object members => valueAt? key members
  | _ => none

end Json
end RollupAudit
