import RollupAudit.Yaml.Fault
import RollupAudit.Yaml.Node
import RollupAudit.Yaml.Token

/-!
# The grammar of documents

The tree that a row of tokens spells. A row that broke off ends with the fault that broke it off,
which counts only if the tokens before it are in order.
-/

namespace RollupAudit
namespace Yaml

/-- The tokens to read and what was read of the document so far. -/
structure Reading where
  tokens : List Token
  /-- Why there are no further tokens. -/
  ending : YamlFault
  /-- The starts of tags by their short forms. -/
  handles : List (String × String) := []
  /-- The nodes with names; none for a node that is still being read. -/
  anchors : List (String × Option Node) := []

/-- The reading of a part of a document. -/
abbrev Reads := StateT Reading (Except YamlFault)

namespace Reads

/-- The next token. -/
def peek : Reads Token := fun r =>
  match r.tokens with
  | t :: _ => .ok (t, r)
  | [] => .error r.ending

/-- Passes over the next token. -/
def skip : Reads Unit := modify fun r => { r with tokens := r.tokens.tail }

/-- Whether the next token is one of those given. -/
def isNext (ts : List Token) : Reads Bool := do
  return ts.contains (← peek)

/-- Passes over the next token if it is the one given. -/
def take (t : Token) : Reads Bool := do
  if ← isNext [t] then
    skip
    return true
  else return false

/-- Passes over the next token, which must be the one given. -/
def expect (t : Token) : Reads Unit := do
  if !(← take t) then throw .malformed

end Reads

open Reads

/-- The name and tag in front of a node, as they are written. -/
structure Properties where
  anchor : Option String := none
  /-- The full name of the tag. -/
  tag : Option String := none

namespace Properties

/-- Whether nothing is said about the kind of a node. -/
def isUntagged (p : Properties) : Bool := p.tag.all (· == "!")

/-- Whether neither a name nor a tag is there. -/
def isEmpty (p : Properties) : Bool := p.anchor.isNone && p.tag.isNone

/-- The tag of a collection. -/
def tagOr (p : Properties) (usual : Tag) : Tag :=
  if p.isUntagged then usual else p.tag.elim usual Tag.ofName

/-- The tag of a scalar. The spelling decides if the scalar is plain or has the tag `!`. -/
def scalarTag (p : Properties) (text : String) (plain : Bool) : Tag :=
  match p.tag with
  | none => if plain then plainTag text else .text
  | some "!" => plainTag text
  | some name => .ofName name

end Properties

/-- The name of an anchor, if one comes next. -/
def readAnchor : Reads (Option String) := do
  match ← peek with
  | .anchor name =>
    skip
    return some name
  | _ => return none

/-- The full name of a tag, if one comes next. -/
def readTag : Reads (Option (Option String × String)) := do
  match ← peek with
  | .tag handle suffix =>
    skip
    return some (handle, suffix)
  | _ => return none

/-- The full name of a tag with a handle, which must be known. -/
def fullTag : Option String × String → Reads String
  | (none, suffix) => return suffix
  | (some handle, suffix) => do
    match valueAt? handle (← get).handles with
    | some start => return start ++ suffix
    | none => throw .malformed

/-- A name and a tag in front of a node, in either order. -/
def readProperties : Reads Properties := do
  let before ← readAnchor
  let tag ← readTag
  let anchor ← if before.isNone && tag.isSome then readAnchor else pure before
  match tag with
  | none => return { anchor }
  | some t => return { anchor, tag := some (← fullTag t) }

/-- Gives a name to a node, or to one that is still being read. -/
def setAnchor (p : Properties) (n : Option Node) : Reads Unit :=
  match p.anchor with
  | none => pure ()
  | some name => modify fun r => { r with anchors := setEntry name n r.anchors }

/-- Checks that the name of a node is new. -/
def checkAnchor (p : Properties) : Reads Unit := do
  match p.anchor with
  | none => return
  | some name => if (valueAt? name (← get).anchors).isSome then throw .malformed

/-- The node with a name. A node that has not been read to its end would have to hold itself. -/
def aliased (name : String) : Reads Node := do
  match valueAt? name (← get).anchors with
  | some (some n) => return n
  | some none => throw .endless
  | none => throw .malformed

/-- A collection read between the checks of its name. -/
def collection (p : Properties) (read : Reads Node) : Reads Node := do
  checkAnchor p
  setAnchor p none
  let n ← read
  setAnchor p (some n)
  return n

/-- A scalar with its name. -/
def scalarNode (p : Properties) (text : String) (plain : Bool) : Reads Node := do
  checkAnchor p
  let n := Node.scalar (p.scalarTag text plain) text
  setAnchor p (some n)
  return n

/-- The tokens that end a value of a block mapping without a node. -/
def blockMappingMarks : List Token := [.key, .value, .blockEnd]

mutual

/-- A node. Blocks may be refused, and items without a block of their own may be allowed. -/
def readNode : Nat → (blocks bareItems : Bool) → Reads Node
  | 0, _, _ => throw .malformed
  | fuel + 1, blocks, bareItems => do
    match ← peek with
    | .alias name =>
      skip
      aliased name
    | _ => readContent fuel blocks bareItems (← readProperties)

/-- A node after its properties. -/
def readContent : Nat → (blocks bareItems : Bool) → Properties → Reads Node
  | 0, _, _, _ => throw .malformed
  | fuel + 1, blocks, bareItems, p => do
    let sequenceOf (items : Reads (List Node)) : Reads Node :=
      collection p do return .sequence (p.tagOr .sequence) (← items)
    let mappingOf (entries : Reads (List (Node × Node))) : Reads Node :=
      collection p do return .mapping (p.tagOr .mapping) (← entries)
    match ← peek, blocks, bareItems with
    | .blockEntry, _, true => sequenceOf (readBareItems fuel)
    | .scalar text plain, _, _ =>
      skip
      scalarNode p text plain
    | .flowSequenceStart, _, _ =>
      skip
      sequenceOf (readFlowItems fuel true)
    | .flowMappingStart, _, _ =>
      skip
      mappingOf (readFlowEntries fuel true)
    | .blockSequenceStart, true, _ =>
      skip
      sequenceOf (readBlockItems fuel)
    | .blockMappingStart, true, _ =>
      skip
      mappingOf (readBlockEntries fuel)
    | _, _, _ => if p.isEmpty then throw .malformed else scalarNode p "" true

/-- A node, or nothing before one of some tokens. -/
def readNodeOrEmpty : Nat → (ends : List Token) → (blocks bareItems : Bool) → Reads Node
  | 0, _, _, _ => throw .malformed
  | fuel + 1, ends, blocks, bareItems => do
    if ← isNext ends then return .empty else readNode fuel blocks bareItems

/-- The items of a block up to its end. -/
def readBlockItems : Nat → Reads (List Node)
  | 0 => throw .malformed
  | fuel + 1 => do
    if ← take .blockEntry then
      let item ← readNodeOrEmpty fuel [.blockEntry, .blockEnd] true false
      return item :: (← readBlockItems fuel)
    else
      expect .blockEnd
      return []

/-- The items of a sequence without a block of its own. -/
def readBareItems : Nat → Reads (List Node)
  | 0 => throw .malformed
  | fuel + 1 => do
    if ← take .blockEntry then
      let item ← readNodeOrEmpty fuel (.blockEntry :: blockMappingMarks) true false
      return item :: (← readBareItems fuel)
    else return []

/-- The entries of a block up to its end. -/
def readBlockEntries : Nat → Reads (List (Node × Node))
  | 0 => throw .malformed
  | fuel + 1 => do
    if ← take .key then
      let key ← readNodeOrEmpty fuel blockMappingMarks true true
      let value ←
        if ← take .value then readNodeOrEmpty fuel blockMappingMarks true true
        else pure .empty
      return (key, value) :: (← readBlockEntries fuel)
    else
      expect .blockEnd
      return []

/-- The items of a sequence on one line up to its end. An item may be a mapping of one entry. -/
def readFlowItems : Nat → (first : Bool) → Reads (List Node)
  | 0, _ => throw .malformed
  | fuel + 1, first => do
    if ← take .flowSequenceEnd then return []
    if !first then expect .flowEntry
    if ← take .key then
      let key ← readNodeOrEmpty fuel [.value, .flowEntry, .flowSequenceEnd] false false
      let value ←
        if ← take .value then readNodeOrEmpty fuel [.flowEntry, .flowSequenceEnd] false false
        else pure .empty
      return .mapping .mapping [(key, value)] :: (← readFlowItems fuel false)
    else if ← take .flowSequenceEnd then return []
    else
      let item ← readNode fuel false false
      return item :: (← readFlowItems fuel false)

/-- The entries of a mapping on one line up to its end. -/
def readFlowEntries : Nat → (first : Bool) → Reads (List (Node × Node))
  | 0, _ => throw .malformed
  | fuel + 1, first => do
    if ← take .flowMappingEnd then return []
    if !first then expect .flowEntry
    if ← take .key then
      let key ← readNodeOrEmpty fuel [.value, .flowEntry, .flowMappingEnd] false false
      let value ←
        if ← take .value then readNodeOrEmpty fuel [.flowEntry, .flowMappingEnd] false false
        else pure .empty
      return (key, value) :: (← readFlowEntries fuel false)
    else if ← take .flowMappingEnd then return []
    else
      let key ← readNode fuel false false
      return (key, .empty) :: (← readFlowEntries fuel false)

end

/-- The short forms of tags that every document knows. -/
def usualHandles : List (String × String) := [("!", "!"), ("!!", Tag.namespace_)]

/-- The lines about a document, and whether a version was told. -/
def readDirectives : Nat → (versioned : Bool) → (handles : List (String × String)) → Reads Unit
  | 0, _, _ => throw .malformed
  | fuel + 1, versioned, handles => do
    match ← peek with
    | .directive d =>
      skip
      match d with
      | .version major _ =>
        if versioned || major ≠ 1 then throw .malformed
        readDirectives fuel true handles
      | .tagHandle handle start =>
        if (valueAt? handle handles).isSome then throw .malformed
        readDirectives fuel versioned (handles ++ [(handle, start)])
      | .other => readDirectives fuel versioned handles
    | _ => modify fun r => { r with handles := handles ++ usualHandles }

/-- Passes over marks of the end of a document. -/
def skipDocumentEnds : Nat → Reads Unit
  | 0 => pure ()
  | fuel + 1 => do if ← take .documentEnd then skipDocumentEnds fuel

/-- Whether nothing comes before the end of a document that was started. -/
def atEmptyDocument : Reads Bool := do
  match ← peek with
  | .directive _ | .documentStart | .documentEnd | .streamEnd => return true
  | _ => return false

/-- A document after the lines about it. -/
def readDocument (fuel : Nat) : Reads Node := do
  match ← peek with
  | .directive _ | .documentStart =>
    readDirectives fuel false []
    expect .documentStart
    if ← atEmptyDocument then return .empty else readNode fuel true false
  | _ =>
    modify fun r => { r with handles := usualHandles }
    readNode fuel true false

/-- The only document of a text, if it has one. -/
def readOnly (fuel : Nat) : Reads (Option Node) := do
  if ← take .streamEnd then return none
  let n ← readDocument fuel
  skipDocumentEnds fuel
  expect .streamEnd
  return some n

/-- The tree that tokens spell; nothing for a text without a document. -/
def Node.ofTokens (tokens : List Token) (ending : Option YamlFault) :
    Except YamlFault (Option Node) :=
  ((readOnly (4 * tokens.length + 4)).run { tokens, ending := ending.getD .malformed }).map Prod.fst

end Yaml
end RollupAudit
