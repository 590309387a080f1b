import RollupAudit.Yaml.Tag

/-!
# Nodes

The tree of a document: scalars, sequences and mappings with their tags. Aliases are gone, for a
node stands in full wherever it is referred to.
-/

namespace RollupAudit
namespace Yaml

/-- A node of a document. -/
inductive Node
  | scalar (tag : Tag) (text : String)
  | sequence (tag : Tag) (items : List Node)
  | mapping (tag : Tag) (entries : List (Node × Node))

namespace Node

/-- The node of nothing. -/
def empty : Node := .scalar .null ""

/-- A node without a meaning. -/
def meaningless : Node := .scalar .unknown ""

/-- The tag of a node. -/
def tag : Node → Tag
  | .scalar t _ | .sequence t _ | .mapping t _ => t

/-- The entries that a node gives to a mapping that it is merged into: its own if it is a mapping,
and those of its items if these are mappings, the last item first. -/
def mergedEntries? : Node → Option (List (Node × Node))
  | .mapping _ entries => some entries
  | .sequence _ items => do
    let parts ← items.mapM fun
      | .mapping _ entries => some entries
      | _ => none
    return parts.reverse.flatten
  | .scalar .. => none

/-- The entries of a mapping with those merged in put in front. A mapping that something else is
merged into has no meaning. -/
def mergeEntries (entries : List (Node × Node)) : List (Node × Node) :=
  let (merges, own) := entries.partition fun e => e.1.tag = .merge
  match merges.mapM fun e => e.2.mergedEntries? with
  | some parts => parts.flatten ++ own
  | none => [(meaningless, empty)]

mutual

/-- A node with all merges done. -/
def merged : Node → Node
  | .scalar t s => .scalar t s
  | .sequence t items => .sequence t (mergedItems items)
  | .mapping t entries => .mapping t (mergeEntries (mergedPairs entries))

/-- Items with all merges done. -/
def mergedItems : List Node → List Node
  | [] => []
  | n :: ns => n.merged :: mergedItems ns

/-- Keys and values with all merges done. -/
def mergedPairs : List (Node × Node) → List (Node × Node)
  | [] => []
  | (k, v) :: es => (k.merged, v.merged) :: mergedPairs es

end

end Node
end Yaml
end RollupAudit
