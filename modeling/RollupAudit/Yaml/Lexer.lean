import RollupAudit.Yaml.MarkLexer

/-!
# Reading tokens

The tokens of a document's text. The depth of a block is told by the columns of its lines. A node
may turn out to be a key when a colon follows it on its line; the mark of a key, and of a mapping
that starts with it, then goes in front of the node.
-/

namespace RollupAudit
namespace Yaml

/-- A node that a colon would make a key. -/
structure KeyCandidate where
  /-- The number of tokens before the node. -/
  token : Nat
  /-- Whether the node cannot be anything else. -/
  required : Bool
  index : Nat
  line : Nat
  column : Nat

/-- The tokens read so far and what decides on the next one. -/
structure Lexer where
  cursor : Cursor
  tokens : Array Token := #[]
  /-- The last candidate at each depth of collections on one line. -/
  candidates : List (Nat × KeyCandidate) := []
  /-- Whether a key may start at the place. -/
  mayStartKey : Bool := true
  /-- The column of the innermost block; -1 outside of all blocks. -/
  indent : Int := -1
  /-- The columns of the blocks around it. -/
  outer : List Int := []
  /-- The depth of collections on one line. -/
  depth : Nat := 0

namespace Lexer

/-- Whether the place is within a collection on one line. -/
def inFlow (l : Lexer) : Bool := l.depth != 0

/-- The reader with a further token. -/
def push (l : Lexer) (t : Token) : Lexer := { l with tokens := l.tokens.push t }

/-- The greatest number of characters of a key. -/
def longestKey : Nat := 1024

/-- Whether a candidate can still become a key. -/
def isOpen (l : Lexer) (k : KeyCandidate) : Bool :=
  k.line == l.cursor.line && l.cursor.index - k.index ≤ longestKey

/-- The reader without candidates that can no longer become keys. -/
def dropStale (l : Lexer) : Except YamlFault Lexer :=
  if l.candidates.any fun k => !l.isOpen k.2 && k.2.required then .error .malformed
  else .ok { l with candidates := l.candidates.filter fun k => l.isOpen k.2 }

/-- The candidate at the current depth. -/
def candidate? (l : Lexer) : Option KeyCandidate := valueAt? l.depth l.candidates

/-- The reader without a candidate at the current depth. -/
def forgetCandidate (l : Lexer) : Lexer :=
  { l with candidates := l.candidates.filter fun k => k.1 != l.depth }

/-- The reader without a candidate at the current depth, which must not be a required key. -/
def dropCandidate (l : Lexer) : Except YamlFault Lexer :=
  if l.candidate?.any KeyCandidate.required then .error .malformed else .ok l.forgetCandidate

/-- The reader with the next token as a candidate, if a key may start here. -/
def saveCandidate (l : Lexer) : Except YamlFault Lexer :=
  if l.mayStartKey then do
    let l ← l.dropCandidate
    let k : KeyCandidate :=
      { token := l.tokens.size, required := !l.inFlow && l.indent == l.cursor.column
        index := l.cursor.index, line := l.cursor.line, column := l.cursor.column }
    return { l with candidates := (l.depth, k) :: l.candidates }
  else .ok l

/-- The reader after the ends of the blocks deeper than a column. -/
def closeBlocks (column : Int) (l : Lexer) : Lexer :=
  if l.inFlow then l else go l.outer l.indent l.tokens
where
  go : List Int → Int → Array Token → Lexer
    | [], indent, tokens => { l with indent, outer := [], tokens }
    | i :: is, indent, tokens =>
      if column < indent then go is i (tokens.push .blockEnd)
      else { l with indent, outer := i :: is, tokens }

/-- Whether a column is deeper than the innermost block. -/
def isDeeper (l : Lexer) (column : Nat) : Bool := l.indent < column

/-- The reader within a block at a column. -/
def openBlock (l : Lexer) (column : Nat) : Lexer :=
  { l with outer := l.indent :: l.outer, indent := column }

/-- The reader within a block that starts at the place, if the place is deeper than the block
around. -/
def openBlockHere (l : Lexer) (start : Token) : Lexer :=
  if !l.inFlow && l.isDeeper l.cursor.column then (l.openBlock l.cursor.column).push start else l

/-- The reader with a place and a decision on whether a key may start there. -/
def moveTo (l : Lexer) (c : Cursor) (mayStartKey : Bool) : Lexer :=
  { l with cursor := c, mayStartKey }

/-- The place of the next token. An end of a line outside of collections on one line lets a key
start. -/
def skipToToken : Nat → Lexer → Lexer
  | 0, l => l
  | fuel + 1, l =>
    let c := l.cursor.skipSpaces.skipComment
    match c.takeBreak? with
    | some (_, c) => skipToToken fuel (l.moveTo c (l.mayStartKey || !l.inFlow))
    | none => { l with cursor := c }

/-- The reader after the end of all blocks. -/
def endBlocks (l : Lexer) : Except YamlFault Lexer := do
  let l ← (l.closeBlocks (-1)).dropCandidate
  return { l with mayStartKey := false }

/-- The end of the text. -/
def readEnd (l : Lexer) : Except YamlFault Lexer := do
  return (← l.endBlocks).push .streamEnd

/-- A line about the document that follows. -/
def readDirective (l : Lexer) : Except YamlFault Lexer := do
  let l ← l.endBlocks
  let (token, c) ← directiveToken l.cursor
  return (l.moveTo c false).push token

/-- The mark of the start or end of a document. -/
def readDocumentMark (l : Lexer) (token : Token) : Except YamlFault Lexer := do
  let l ← l.endBlocks
  return (l.moveTo (l.cursor.advance 3) false).push token

/-- The start of a collection on one line. -/
def readFlowStart (l : Lexer) (token : Token) : Except YamlFault Lexer := do
  let l ← l.saveCandidate
  return { l.moveTo l.cursor.next true with depth := l.depth + 1 }.push token

/-- The end of a collection on one line. -/
def readFlowEnd (l : Lexer) (token : Token) : Except YamlFault Lexer := do
  let l ← l.dropCandidate
  if l.depth = 0 then throw .malformed
  return { l.moveTo l.cursor.next false with depth := l.depth - 1 }.push token

/-- The comma between items on one line. -/
def readFlowEntry (l : Lexer) : Except YamlFault Lexer := do
  let l ← l.dropCandidate
  return (l.moveTo l.cursor.next true).push .flowEntry

/-- The hyphen before an item. -/
def readBlockEntry (l : Lexer) : Except YamlFault Lexer := do
  if !l.inFlow && !l.mayStartKey then throw .malformed
  let l ← (l.openBlockHere .blockSequenceStart).dropCandidate
  return (l.moveTo l.cursor.next true).push .blockEntry

/-- The question mark before a key. -/
def readKey (l : Lexer) : Except YamlFault Lexer := do
  if !l.inFlow && !l.mayStartKey then throw .malformed
  let l ← (l.openBlockHere .blockMappingStart).dropCandidate
  return (l.moveTo l.cursor.next (!l.inFlow)).push .key

/-- The colon after a key that is a candidate. -/
def readValueOf (l : Lexer) (k : KeyCandidate) : Lexer :=
  let l := l.forgetCandidate
  let isNewBlock := !l.inFlow && l.isDeeper k.column
  let marks := if isNewBlock then [Token.blockMappingStart, .key] else [.key]
  let tokens := l.tokens.extract 0 k.token ++ marks.toArray ++ l.tokens.extract k.token l.tokens.size
  let l := if isNewBlock then l.openBlock k.column else l
  ({ l with tokens }.moveTo l.cursor.next false).push .value

/-- The colon before a value. -/
def readValue (l : Lexer) : Except YamlFault Lexer :=
  match l.candidate? with
  | some k => .ok (l.readValueOf k)
  | none => do
    if !l.inFlow && !l.mayStartKey then throw .malformed
    let l ← (l.openBlockHere .blockMappingStart).dropCandidate
    return (l.moveTo l.cursor.next (!l.inFlow)).push .value

/-- A part that may be or start a key. -/
def readNodePart (l : Lexer) (scan : Cursor → Except YamlFault (Token × Cursor)) : Except YamlFault Lexer := do
  let l ← l.saveCandidate
  let (token, c) ← scan l.cursor
  return (l.moveTo c false).push token

/-- A scalar that spans lines of its own. -/
def readBlockScalar (l : Lexer) (folds : Bool) : Except YamlFault Lexer := do
  let l ← l.dropCandidate
  let (text, c) ← blockScalar folds l.indent l.cursor.next
  return (l.moveTo c true).push (.scalar (Text.spelled (String.ofList text)) false)

/-- A scalar in quotes, whose text is spelled as it is read. -/
def readQuoted (l : Lexer) (double : Bool) : Except YamlFault Lexer :=
  l.readNodePart fun c => (quotedScalar double c).map fun r => (.scalar (String.ofList r.1) false, r.2)

/-- A scalar without quotes. A key may start after it if it ends with the end of a line. -/
def readPlain (l : Lexer) : Except YamlFault Lexer := do
  let l ← l.saveCandidate
  let ((text, crosses), c) := plainScalar l.inFlow (l.indent + 1) l.cursor
  return (l.moveTo c crosses).push (.scalar (Text.spelled (String.ofList text)) true)

/-- Whether a mark of one character stands here: always within a collection on one line, else only
with a gap after it. -/
def atMark (l : Lexer) : Bool := l.inFlow || l.cursor.peekNext.all isGap

/-- The token that starts with a character. -/
def readToken (l : Lexer) (ch : Char) : Except YamlFault Lexer :=
  let c := l.cursor
  if ch = '%' && c.column = 0 then l.readDirective
  else if c.column = 0 && c.atDocumentStart then l.readDocumentMark .documentStart
  else if c.column = 0 && c.atDocumentEnd then l.readDocumentMark .documentEnd
  else if ch = '[' then l.readFlowStart .flowSequenceStart
  else if ch = '\x7b' then l.readFlowStart .flowMappingStart
  else if ch = ']' then l.readFlowEnd .flowSequenceEnd
  else if ch = '\x7d' then l.readFlowEnd .flowMappingEnd
  else if ch = ',' then l.readFlowEntry
  else if ch = '-' && c.peekNext.all isGap then l.readBlockEntry
  else if ch = '?' && l.atMark then l.readKey
  else if ch = ':' && l.atMark then l.readValue
  else if ch = '*' then l.readNodePart fun c => (anchorName c).map fun r => (.alias r.1, r.2)
  else if ch = '&' then l.readNodePart fun c => (anchorName c).map fun r => (.anchor r.1, r.2)
  else if ch = '!' then l.readNodePart tagToken
  else if ch = '|' && !l.inFlow then l.readBlockScalar false
  else if ch = '>' && !l.inFlow then l.readBlockScalar true
  else if ch = '\'' then l.readQuoted false
  else if ch = '"' then l.readQuoted true
  else if startsPlain l.inFlow c then l.readPlain
  else .error .malformed

/-- The reader after a further token, and whether the text has ended. -/
def step (l : Lexer) : Except YamlFault (Lexer × Bool) := do
  let l ← (l.skipToToken (l.cursor.rest.length + 1)).dropStale
  let l := l.closeBlocks l.cursor.column
  match l.cursor.peek with
  | none => return (← l.readEnd, true)
  | some ch => return (← l.readToken ch, false)

/-- The tokens that are certain: those before the first candidate that can still become a key. -/
def certainTokens (l : Lexer) : List Token :=
  let opens := (l.candidates.filter fun k => l.isOpen k.2).map fun k => k.2.token
  (l.tokens.extract 0 (opens.foldl min l.tokens.size)).toList

/-- The tokens up to the end of the text, or those before the first fault and the fault. -/
def run : Nat → Lexer → List Token × Option YamlFault
  | 0, l => (l.certainTokens, some .malformed)
  | fuel + 1, l =>
    match l.step with
    | .error e => (l.certainTokens, some e)
    | .ok (l, true) => (l.tokens.toList, none)
    | .ok (l, false) => l.run fuel

/-- The start of a text. A mark of the order of octets is passed over. -/
def start (cs : List Char) : Lexer :=
  { cursor :=
      match cs with
      | c :: rest => if c = orderMark then { rest, index := 1 } else { rest := cs }
      | [] => { rest := [] } }

end Lexer

/-- The tokens of a text, or those before the first fault and the fault. -/
def tokens (cs : List Char) : List Token × Option YamlFault :=
  if cs.all isAllowed then (Lexer.start cs).run (cs.length + 2) else ([], some .malformed)

end Yaml
end RollupAudit
