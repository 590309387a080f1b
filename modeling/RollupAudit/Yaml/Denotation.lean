import RollupAudit.Value.Key
import RollupAudit.Yaml.Node
import RollupAudit.Yaml.ScalarValue

/-!
# Values of documents

The value that a tree denotes, or the first fault in it. Faults come level by level: one of a node
comes before those of the nodes below its neighbours, whichever is written first.
-/

namespace RollupAudit
namespace Yaml

/-- A fault and how many levels down it is. -/
structure DeepFault where
  level : Nat
  fault : YamlFault

/-- A part of a value, or the first fault in it. -/
abbrev Denoted := Except DeepFault

namespace Denoted

variable {α β : Type}

/-- A fault at the level of the node itself. -/
def fail (e : YamlFault) : Denoted α := .error ⟨0, e⟩

/-- Two parts beside each other. -/
def both (x : Denoted α) (y : Denoted β) : Denoted (α × β) :=
  match x, y with
  | .ok a, .ok b => .ok (a, b)
  | .error e, .ok _ => .error e
  | .ok _, .error e => .error e
  | .error e, .error f => if f.level < e.level then .error f else .error e

/-- A part one level further down. -/
def below (x : Denoted α) : Denoted α :=
  x.mapError fun e => { e with level := e.level + 1 }

end Denoted

open Denoted

namespace Node

/-- The text of the scalar that a node is, or that a mapping holds as its content. -/
def scalarText? : Node → Option String
  | .scalar _ s => some s
  | .mapping _ entries => contentText? entries
  | .sequence .. => none
where
  /-- The text of the content among entries. -/
  contentText? : List (Node × Node) → Option String
    | [] => none
    | (k, v) :: es =>
      if k.tag = .content then
        match v with
        | .scalar _ s => some s
        | .mapping _ inner => contentText? inner
        | .sequence .. => none
      else contentText? es

/-- Whether a tag is one of collections. -/
def isCollectionTag : Tag → Bool
  | .sequence | .mapping | .set | .pairs | .orderedMapping => true
  | _ => false

/-- The value of the text of a node. A timestamp is not looked for in the content of a mapping. -/
def textValue (n : Node) (text : String) : Except YamlFault Value :=
  match n with
  | .mapping .timestamp _ => .error .notScalar
  | n => scalarValue n.tag text

/-- The value of a node with the tag of a scalar. -/
def scalarDenoted (n : Node) : Denoted Value :=
  match n.scalarText? with
  | some s => (n.textValue s).mapError fun e => ⟨0, e⟩
  | none => fail .malformed

/-- A key. Values that can change are no keys, and the key of the content is a text. -/
def keyOf (n : Node) (v : Denoted Value) : Denoted Value :=
  match n with
  | .scalar .content s => .ok (.text s)
  | n => if isCollectionTag n.tag then fail .malformed else v

mutual

/-- The value of a node whose merges are done. -/
def denote : Node → Denoted Value
  | .scalar tag s =>
    if isCollectionTag tag then (fail .malformed : Denoted Value).below
    else scalarDenoted (.scalar tag s)
  | .sequence tag items =>
    match tag with
    | .sequence => (denoteItems items).below.map .list
    | .pairs | .orderedMapping => (denotePairs items).below.map .list
    | .mapping | .set => (fail .malformed : Denoted Value).below
    | _ => fail .malformed
  | .mapping tag entries =>
    match tag with
    | .mapping => (denoteEntries entries).below.map fun es => .mapping (Value.distinctEntries es)
    | .set =>
      (denoteEntries entries).below.map fun es =>
        .set ((Value.distinctEntries es).map Prod.fst)
    | .sequence | .pairs | .orderedMapping => (fail .malformed : Denoted Value).below
    | _ => scalarDenoted (.mapping tag entries)

/-- The values of items. -/
def denoteItems : List Node → Denoted (List Value)
  | [] => .ok []
  | n :: ns => (n.denote.both (denoteItems ns)).map fun r => r.1 :: r.2

/-- The keys and values of entries. -/
def denoteEntries : List (Node × Node) → Denoted (List (Value × Value))
  | [] => .ok []
  | (k, v) :: es =>
    (((keyOf k k.denote).both v.denote).both (denoteEntries es)).map fun r => r.1 :: r.2

/-- The pairs of items that are mappings of one entry each. -/
def denotePairs : List Node → Denoted (List Value)
  | [] => .ok []
  | .mapping _ [(k, v)] :: ns =>
    ((k.denote.both v.denote).both (denotePairs ns)).map fun r => .tuple [r.1.1, r.1.2] :: r.2
  | _ => fail .malformed

end

/-- The value of a tree, or the first fault in it. -/
def value (n : Node) : Except YamlFault Value :=
  n.merged.denote.mapError DeepFault.fault

end Node
end Yaml
end RollupAudit
