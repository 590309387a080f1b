import RollupAudit.Value.Basic

/-!
# Keys of mappings

Two keys are the same when their values are equal: numbers of all kinds by value, the flags true
and false as one and zero, tuples item by item. What is not a number is the same as nothing. Lists,
sets and mappings cannot be keys.
-/

namespace RollupAudit
namespace Value

/-- The exact value of a number or flag. -/
def number? : Value → Option ExtendedDecimal
  | .bool b => some (.finite (.ofInt (if b then 1 else 0)))
  | .int n => some (.finite (.ofInt n))
  | .float (.infinite negative) => some (.infinite negative)
  | .float .nan => some (.nan false false 0)
  | .float x => (Decimal.ofBinary64? x).map .finite
  | .decimal d => some d
  | _ => none

/-- Equality of exact values; what is not a number equals nothing. -/
def sameNumber : ExtendedDecimal → ExtendedDecimal → Bool
  | .finite x, .finite y => x.numericEq y
  | .infinite s, .infinite t => s == t
  | _, _ => false

/-- Equality of clock readings: of equal readings when the offsets of both are unknown, of equal
instants when both are known. -/
def sameTime (s t : Timestamp) : Bool :=
  s.offset.isSome == t.offset.isSome && s.utcMicros == t.utcMicros

mutual

/-- Whether two values are the same key. -/
def sameKey : Value → Value → Bool
  | .null, .null => true
  | .text s, .text t => s == t
  | .octets a, .octets b => a == b
  | .timestamp s, .timestamp t => sameTime s t
  | .date d, .date e => d == e
  | .tuple xs, .tuple ys => sameKeys xs ys
  | .int m, .int n => m == n
  | x, y =>
    match x.number?, y.number? with
    | some a, some b => sameNumber a b
    | _, _ => false

/-- Whether two rows of values are the same item by item. -/
def sameKeys : List Value → List Value → Bool
  | [], [] => true
  | x :: xs, y :: ys => sameKey x y && sameKeys xs ys
  | _, _ => false

end

mutual

/-- The kind that keeps a value from being a key, if one does. -/
def unhashable? : Value → Option String
  | .list _ => some "list"
  | .set _ => some "set"
  | .mapping _ => some "dict"
  | .tuple items => unhashableItem? items
  | _ => none

/-- The first kind among items that keeps their tuple from being a key. -/
def unhashableItem? : List Value → Option String
  | [] => none
  | v :: vs => (unhashable? v).or (unhashableItem? vs)

end

/-- Entries with the value of a key replaced, or added at the end. -/
def putEntry (key value : Value) : List (Value × Value) → List (Value × Value)
  | [] => [(key, value)]
  | (k, v) :: rest => if sameKey k key then (k, value) :: rest else (k, v) :: putEntry key value rest

/-- Entries in which a repeated key keeps its first place and has its last value. -/
def distinctEntries (entries : List (Value × Value)) : List (Value × Value) :=
  entries.foldl (fun acc e => putEntry e.1 e.2 acc) []

end Value
end RollupAudit
