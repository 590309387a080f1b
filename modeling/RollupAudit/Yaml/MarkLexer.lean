import RollupAudit.Text.Utf8
import RollupAudit.Yaml.ScalarLexer
import RollupAudit.Yaml.Token

/-!
# Names, tags and directives in a document's text

The properties of nodes and the lines about a document.
-/

namespace RollupAudit
namespace Yaml

/-- A nonempty word. -/
def wordAt (c : Cursor) : Except YamlFault (String × Cursor) :=
  match c.span isWordChar with
  | ([], _) => .error .malformed
  | (word, c) => .ok (String.ofList word, c)

/-- The characters other than gaps that may follow the name of an anchor. -/
def endsAnchor (c : Char) : Bool := "?:,]\x7d%@`".toList.contains c

/-- The name after the sign of an anchor or alias. -/
def anchorName (c : Cursor) : Except YamlFault (String × Cursor) := do
  let (name, c) ← wordAt c.next
  if c.atOrEnd fun ch => isGap ch || endsAnchor ch then return (name, c) else throw .malformed

/-- A character of a tag that stands for itself. -/
def isTagChar (c : Char) : Bool :=
  isWordChar c || "-;/?:@&=+$,_.!~*'()[]".toList.contains c

/-- The octets that escapes with a percent sign denote. -/
def escapedOctets : Nat → Cursor → Except YamlFault (List UInt8 × Cursor)
  | 0, c => .ok ([], c)
  | fuel + 1, c =>
    match c.rest with
    | '%' :: rest =>
      match (rest.take 2).mapM Json.hexValue? with
      | some [a, b] =>
        (escapedOctets fuel (c.advance 3)).map fun r => (UInt8.ofNat (a * 16 + b) :: r.1, r.2)
      | _ => .error .malformed
    | _ => .ok ([], c)

/-- The characters of a tag, escapes with percent signs as what they denote. -/
def tagText : Nat → Cursor → Except YamlFault (List Char × Cursor)
  | 0, c => .ok ([], c)
  | fuel + 1, c =>
    match c.peek with
    | none => .ok ([], c)
    | some ch =>
      if ch = '%' then do
        let (octets, c) ← escapedOctets (c.rest.length + 1) c
        match Text.decodeUtf8 octets with
        | .error _ => throw .malformed
        | .ok s => (tagText fuel c).map fun r => (s.toList ++ r.1, r.2)
      else if isTagChar ch then (tagText fuel c.next).map fun r => (ch :: r.1, r.2)
      else .ok ([], c)

/-- The characters of a tag, at least one character or escape. -/
def tagSuffix (c : Cursor) : Except YamlFault (String × Cursor) := do
  let (text, after) ← tagText (c.rest.length + 1) c
  if after.index = c.index then throw .malformed else return (String.ofList text, after)

/-- The short form of the start of a tag: exclamation marks, with a word between them or none. -/
def tagHandle (c : Cursor) : Except YamlFault (String × Cursor) :=
  match c.rest with
  | '!' :: ' ' :: _ => .ok ("!", c.next)
  | '!' :: _ =>
    let (word, after) := c.next.span isWordChar
    if after.at_ (· == '!') then .ok (String.ofList ('!' :: word ++ ['!']), after.next)
    else .error .malformed
  | _ => .error .malformed

/-- The tag of a node. -/
def tagToken (c : Cursor) : Except YamlFault (Token × Cursor) := do
  let (token, c) ←
    match c.peekNext with
    | some '<' => do
      let (suffix, c) ← tagSuffix (c.advance 2)
      if c.at_ (· == '>') then pure (Token.tag none suffix, c.next) else throw .malformed
    | following =>
      if following.all isGap then pure (Token.tag none "!", c.next)
      else if (c.next.rest.takeWhile fun ch => !isSpaceOrBreak ch).contains '!' then do
        let (handle, c) ← tagHandle c
        let (suffix, c) ← tagSuffix c
        pure (Token.tag (some handle) suffix, c)
      else do
        let (suffix, c) ← tagSuffix c.next
        pure (Token.tag (some "!") suffix, c)
  if c.atOrEnd isSpaceOrBreak then return (token, c) else throw .malformed

/-- A number in a directive. -/
def directiveNumber (c : Cursor) : Except YamlFault (Nat × Cursor) :=
  match c.span Char.isDigit with
  | ([], _) => .error .malformed
  | (digits, c) =>
    if Text.maxDigits < digits.length then .error (.tooManyDigits digits.length)
    else .ok (Text.digitsValue digits, c)

/-- The version that a directive tells. -/
def versionDirective (c : Cursor) : Except YamlFault (Directive × Cursor) := do
  let (major, c) ← directiveNumber c.skipSpaces
  if !c.at_ (· == '.') then throw .malformed
  let (minor, c) ← directiveNumber c.next
  if c.atOrEnd isSpaceOrBreak then return (.version major minor, c) else throw .malformed

/-- The short form of tags that a directive sets. -/
def tagDirective (c : Cursor) : Except YamlFault (Directive × Cursor) := do
  let (handle, c) ← tagHandle c.skipSpaces
  if !c.at_ (· == ' ') then throw .malformed
  let (start, c) ← tagSuffix c.skipSpaces
  if c.atOrEnd isSpaceOrBreak then return (.tagHandle handle start, c) else throw .malformed

/-- A line about the document that follows. -/
def directiveToken (c : Cursor) : Except YamlFault (Token × Cursor) := do
  let (name, c) ← wordAt c.next
  if !c.atOrEnd isSpaceOrBreak then throw .malformed
  let (d, c) ←
    if name == "YAML" then versionDirective c
    else if name == "TAG" then tagDirective c
    else pure (Directive.other, c.skip fun ch => !isBreak ch)
  return (.directive d, ← commentLine c)

end Yaml
end RollupAudit
