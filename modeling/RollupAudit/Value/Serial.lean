import RollupAudit.Json.Writer
import RollupAudit.Value.Key
import RollupAudit.Value.Text

/-!
# Values as JSON

The JSON form of a value that was not read from a JSON document. Numbers, flags and null are keys by
their texts. Before that the keys of a mapping are put in order, which takes keys of one sort. Only
values of the kinds that JSON has can be written.
-/

namespace RollupAudit

/-- Why a value has no JSON form. -/
inductive SerialFault
  | notSerial (kind : String)
  | badKey (kind : String)
  /-- Two keys, of which neither comes before the other. -/
  | unordered (later earlier : String)
  | tooManyDigits
  deriving DecidableEq, Repr

/-- The wording of a fault. -/
def SerialFault.message : SerialFault → String
  | .notSerial kind => "Object of type " ++ kind ++ " is not JSON serializable"
  | .badKey kind => "keys must be str, int, float, bool or None, not " ++ kind
  | .unordered later earlier =>
    "'<' not supported between instances of '" ++ later ++ "' and '" ++ earlier ++ "'"
  | .tooManyDigits => Text.tooManyDigitsMessage

namespace Serial

/-- Whether two keys can be put in order: both numbers or flags, or else of one kind but not null. -/
def areOrdered (k l : Value) : Bool :=
  (k.number?.isSome && l.number?.isSome) || (k.kindName == l.kindName && k.kindName != "NoneType")

/-- The first neighbours that cannot be put in order. -/
def unordered? : List (Value × Value) → Option SerialFault
  | (k, _) :: (l, v) :: es =>
    if areOrdered k l then unordered? ((l, v) :: es) else some (.unordered l.kindName k.kindName)
  | _ => none

/-- Whether an exact value does not come after another. -/
def numberAtMost : ExtendedDecimal → ExtendedDecimal → Bool
  | .finite a, .finite b => a.compare b != .gt
  | .infinite s, .infinite t => s || !t
  | .infinite s, .finite _ => s
  | .finite _, .infinite t => !t
  | _, _ => true

/-- Whether a key does not come after another. -/
def keyAtMost (k l : Value) : Bool :=
  match k, l with
  | .text s, .text t => s ≤ t
  | _, _ =>
    match k.number?, l.number? with
    | some a, some b => numberAtMost a b
    | _, _ => true

/-- The entries of a mapping in the order of their keys. -/
def ordered {α : Type} (es : List (Value × α)) : List (Value × α) :=
  es.mergeSort fun a b => keyAtMost a.1 b.1

/-- The text of a key. -/
def keyText : Value → Except SerialFault String
  | .text s => .ok s
  | .null => .ok "null"
  | .bool b => .ok (if b then "true" else "false")
  | .int n => if Text.isWritable n then .ok (Text.intText n) else .error .tooManyDigits
  | .float x => .ok (String.ofList (Json.numberText x))
  | v => .error (.badKey v.kindName)

/-- The members of an object, up to the first key or value that has no JSON form. -/
def members : List (Value × Except SerialFault Json) → Except SerialFault (List (String × Json))
  | [] => .ok []
  | (k, v) :: es => do
    let key ← keyText k
    let value ← v
    return (key, value) :: (← members es)

mutual

/-- The JSON form of a value, with the members of every object in order. -/
def json : Value → Except SerialFault Json
  | .null => .ok .null
  | .bool b => .ok (.bool b)
  | .int n => if Text.isWritable n then .ok (.int n) else .error .tooManyDigits
  | .float x => .ok (.float x)
  | .text s => .ok (.text s)
  | .list vs => (jsonItems vs).map .array
  | .tuple vs => (jsonItems vs).map .array
  | .mapping es =>
    match unordered? es with
    | some fault => .error fault
    | none => (members (ordered (jsonEntries es))).map .object
  | v => .error (.notSerial v.kindName)

/-- The JSON forms of items. -/
def jsonItems : List Value → Except SerialFault (List Json)
  | [] => .ok []
  | v :: vs => do return (← json v) :: (← jsonItems vs)

/-- The JSON forms of the values of entries. -/
def jsonEntries : List (Value × Value) → List (Value × Except SerialFault Json)
  | [] => []
  | (k, v) :: es => (k, json v) :: jsonEntries es

end

end Serial
end RollupAudit
