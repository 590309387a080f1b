import RollupAudit.Yaml.Cursor
import RollupAudit.Yaml.Fault
import RollupAudit.Yaml.Tag

/-!
# Scalars in a document's text

Plain, quoted and block scalars. Within a scalar a single end of a line counts as a space, and
further ends of lines are kept.
-/

namespace RollupAudit
namespace Yaml

/-- What stands for the end of a line and the ends of empty lines after it. -/
def folded (first : Char) (further : List Char) : List Char :=
  if first ≠ '\n' then first :: further
  else if further.isEmpty then [' ']
  else further

/-! ## Plain scalars -/

/-- The marks of collections on one line. -/
def isFlowMark (c : Char) : Bool :=
  c == ',' || c == '[' || c == ']' || c == '\x7b' || c == '\x7d'

/-- The characters that start no plain scalar, or only together with the next one. -/
def isIndicator (c : Char) : Bool := "-?:,[]\x7b\x7d#&*!|>'\"%@`".toList.contains c

/-- Whether a plain scalar starts at a place, within a collection on one line or outside. -/
def startsPlain (inFlow : Bool) (c : Cursor) : Bool :=
  match c.peek with
  | none => false
  | some ch =>
    !(isGap ch || isIndicator ch) ||
      (c.peekNext.any (fun d => !isGap d) && (ch == '-' || (!inFlow && (ch == '?' || ch == ':'))))

/-- Whether a colon with a character after it, if any, ends a plain scalar. -/
def colonEnds (inFlow : Bool) (following : Option Char) : Bool :=
  following.all fun d => isGap d || (inFlow && isFlowMark d)

/-- The characters of a plain scalar up to the next gap. -/
def plainWord (inFlow : Bool) : List Char → List Char
  | [] => []
  | c :: rest =>
    if isGap c || (c == ':' && colonEnds inFlow rest.head?) ||
        (inFlow && (c == '?' || isFlowMark c)) then []
    else c :: plainWord inFlow rest

/-- What stands between two words of a plain scalar. -/
structure PlainGap where
  /-- What the gap counts as; nothing if the scalar ends before it. -/
  text : List Char
  crossesLine : Bool
  cursor : Cursor

/-- The ends of empty lines, up to a mark of the document. -/
def plainBreaks : Nat → Cursor → Option (List Char) × Cursor
  | 0, c => (some [], c)
  | fuel + 1, c =>
    let c := c.skipSpaces
    match c.takeBreak? with
    | none => (some [], c)
    | some (b, c) =>
      if c.atDocumentMark then (none, c)
      else
        let (bs, c) := plainBreaks fuel c
        (bs.map (b :: ·), c)

/-- The gap after a word of a plain scalar. -/
def plainGap (c : Cursor) : PlainGap :=
  let (spaces, c) := c.span (· == ' ')
  match c.takeBreak? with
  | none => ⟨spaces, false, c⟩
  | some (b, c) =>
    if c.atDocumentMark then ⟨[], true, c⟩
    else
      match plainBreaks (c.rest.length + 1) c with
      | (none, c) => ⟨[], true, c⟩
      | (some bs, c) => ⟨folded b bs, true, c⟩

/-- A plain scalar from a word on, with what stands before it. The flag says whether the scalar ends
after the end of a line. -/
def plainFrom (inFlow : Bool) (indent : Int) : Nat → List Char → Cursor → (List Char × Bool) × Cursor
  | 0, _, c => (([], false), c)
  | fuel + 1, before, c =>
    let word := plainWord inFlow c.rest
    if word.isEmpty then (([], !before.isEmpty), c)
    else
      let gap := plainGap (c.advance word.length)
      let ends := gap.text.isEmpty || gap.cursor.at_ (· == '#') ||
        (!inFlow && (gap.cursor.column : Int) < indent)
      if ends then ((before ++ word, gap.crossesLine), gap.cursor)
      else
        let ((text, crosses), c) := plainFrom inFlow indent fuel gap.text gap.cursor
        ((before ++ word ++ text, if text.isEmpty then gap.crossesLine else crosses), c)

/-- A plain scalar with lines indented at least as given. -/
def plainScalar (inFlow : Bool) (indent : Int) (c : Cursor) : (List Char × Bool) × Cursor :=
  plainFrom inFlow indent (c.rest.length + 1) [] c

/-! ## Quoted scalars -/

/-- The characters with escapes of one letter. -/
def shortEscape? : Char → Option Char
  | '0' => some '\x00'
  | 'a' => some '\x07'
  | 'b' => some '\x08'
  | 't' | '\t' => some '\t'
  | 'n' => some '\n'
  | 'v' => some '\x0b'
  | 'f' => some '\x0c'
  | 'r' => some '\r'
  | 'e' => some '\x1b'
  | ' ' => some ' '
  | '"' => some '"'
  | '\\' => some '\\'
  | '/' => some '/'
  | 'N' => some '\x85'
  | '_' => some '\u00a0'
  | 'L' => some '\u2028'
  | 'P' => some '\u2029'
  | _ => none

/-- The number of digits of an escape by code point. -/
def escapeDigits? : Char → Option Nat
  | 'x' => some 2
  | 'u' => some 4
  | 'U' => some 8
  | _ => none

/-- The number that hexadecimal digits denote, if all are such digits. -/
def hexNumber? (digits : List Char) : Option Nat :=
  (digits.mapM Json.hexValue?).map (Text.numberOfDigits 16)

/-- The ends of empty lines within quotes. A mark of the document may not stand there. -/
def quotedBreaks : Nat → Cursor → Except YamlFault (List Char × Cursor)
  | 0, _ => .error .malformed
  | fuel + 1, c =>
    if c.atDocumentMark then .error .malformed
    else
      let c := c.skip isSpaceOrTab
      match c.takeBreak? with
      | none => .ok ([], c)
      | some (b, c) => (quotedBreaks fuel c).map fun r => (b :: r.1, r.2)

/-- What a gap within quotes counts as. -/
def quotedGap (c : Cursor) : Except YamlFault (List Char × Cursor) :=
  let (blanks, c) := c.span isSpaceOrTab
  match c.takeBreak? with
  | some (b, c) => (quotedBreaks (c.rest.length + 1) c).map fun r => (folded b r.1, r.2)
  | none => if c.rest.isEmpty then .error .malformed else .ok (blanks, c)

/-- The characters that spell what an escape after the backslash denotes. -/
def escape (c : Cursor) : Except YamlFault (List Char × Cursor) :=
  match c.peek with
  | none => .error .malformed
  | some ch =>
    match shortEscape? ch, escapeDigits? ch with
    | some d, _ => .ok ([d], c.next)
    | none, some n =>
      let digits := c.next.rest.take n
      match hexNumber? digits with
      | none => .error .malformed
      | some code =>
        if digits.length < n then .error .malformed
        else if 0x10ffff < code then .error (.noCharacter code)
        else .ok (Text.spell code, c.next.advance n)
    | none, none =>
      match c.takeBreak? with
      | some (_, c) => quotedBreaks (c.rest.length + 1) c
      | none => .error .malformed

/-- The characters that spell the text up to the closing quote. -/
def quotedFrom (double : Bool) : Nat → Cursor → Except YamlFault (List Char × Cursor)
  | 0, _ => .error .malformed
  | fuel + 1, c =>
    let continue_ (part : List Char) (c : Cursor) : Except YamlFault (List Char × Cursor) :=
      (quotedFrom double fuel c).map fun r => (part ++ r.1, r.2)
    match c.peek with
    | none => .error .malformed
    | some ch =>
      if isGap ch then do
        let (part, c) ← quotedGap c
        continue_ part c
      else if double then
        if ch = '"' then .ok ([], c.next)
        else if ch = '\\' then do
          let (part, c) ← escape c.next
          continue_ part c
        else continue_ (Text.spell ch.toNat) c.next
      else if ch = '\'' then
        if c.peekNext = some '\'' then continue_ [ch] (c.advance 2) else .ok ([], c.next)
      else continue_ (Text.spell ch.toNat) c.next

/-- A scalar in quotes. -/
def quotedScalar (double : Bool) (c : Cursor) : Except YamlFault (List Char × Cursor) :=
  quotedFrom double (c.rest.length + 1) c.next

/-! ## Block scalars -/

/-- What is kept of the ends of lines at the end of a block scalar. -/
inductive Chomping
  | one
  | none
  | all
  deriving DecidableEq

/-- A mark of chomping, if one comes next. -/
def chomping? (c : Cursor) : Option (Chomping × Cursor) :=
  match c.peek with
  | some '+' => some (.all, c.next)
  | some '-' => some (.none, c.next)
  | _ => none

/-- A digit of indentation, if one comes next, which is not zero. -/
def increment? (c : Cursor) : Except YamlFault (Option (Nat × Cursor)) :=
  match c.peek with
  | some d =>
    if d = '0' then .error .malformed
    else if d.isDigit then .ok (some (d.toNat - '0'.toNat, c.next))
    else .ok none
  | none => .ok none

/-- The marks after the sign of a block scalar, in either order. -/
def blockMarks (c : Cursor) : Except YamlFault ((Chomping × Option Nat) × Cursor) := do
  let (chomping, increment, c) ←
    match chomping? c with
    | some (chomping, c) =>
      match ← increment? c with
      | some (n, c) => pure (chomping, some n, c)
      | none => pure (chomping, none, c)
    | none =>
      match ← increment? c with
      | some (n, c) =>
        match chomping? c with
        | some (chomping, c) => pure (chomping, some n, c)
        | none => pure (Chomping.one, some n, c)
      | none => pure (Chomping.one, none, c)
  if c.atOrEnd isSpaceOrBreak then return ((chomping, increment), c) else throw .malformed

/-- The rest of a line that may hold nothing but a comment. -/
def commentLine (c : Cursor) : Except YamlFault Cursor :=
  let c := c.skipSpaces.skipComment
  if c.atOrEnd isBreak then .ok c.skipBreak else .error .malformed

/-- The place after spaces, up to a column. -/
def skipIndent (column : Nat) : Nat → Cursor → Cursor
  | 0, c => c
  | fuel + 1, c =>
    if c.column < column && c.at_ (· == ' ') then skipIndent column fuel c.next else c

/-- The ends of empty lines of a block scalar with an indentation. -/
def blockBreaks (indent : Nat) : Nat → Cursor → List Char × Cursor
  | 0, c => ([], c)
  | fuel + 1, c =>
    let c := skipIndent indent (c.rest.length + 1) c
    match c.takeBreak? with
    | none => ([], c)
    | some (b, c) =>
      let (bs, c) := blockBreaks indent fuel c
      (b :: bs, c)

/-- The ends of empty lines before a block scalar, and the greatest column reached in them. -/
def leadingBreaks : Nat → Nat → Cursor → (List Char × Nat) × Cursor
  | 0, deepest, c => (([], deepest), c)
  | fuel + 1, deepest, c =>
    if c.at_ (· == ' ') then leadingBreaks fuel (max deepest c.next.column) c.next
    else
      match c.takeBreak? with
      | none => (([], deepest), c)
      | some (b, c) =>
        let ((bs, deepest), c) := leadingBreaks fuel deepest c
        ((b :: bs, deepest), c)

/-- The lines of a block scalar with the ends of empty lines before them. A last end of a line and
the ends of empty lines after it are given apart. -/
def blockLines (folds : Bool) (indent : Nat) :
    Nat → List Char → Cursor → (List Char × List Char × List Char) × Cursor
  | 0, breaks, c => (([], [], breaks), c)
  | fuel + 1, breaks, c =>
    if c.column ≠ indent || c.rest.isEmpty then (([], [], breaks), c)
    else
      let isMore := c.at_ isSpaceOrTab
      let (line, c) := c.span fun ch => !isBreak ch
      let (lineEnd, c) :=
        match c.takeBreak? with
        | some (b, c) => ([b], c)
        | none => ([], c)
      let (further, c) := blockBreaks indent (c.rest.length + 1) c
      if c.column = indent && !c.rest.isEmpty then
        let between :=
          if folds && lineEnd = ['\n'] && !isMore && !c.at_ isSpaceOrTab then
            (if further.isEmpty then [' '] else [])
          else lineEnd
        let ((text, last, tail), c) := blockLines folds indent fuel further c
        ((breaks ++ line ++ between ++ text, last, tail), c)
      else ((breaks ++ line, lineEnd, further), c)

/-- A block scalar after its sign, within a block of an indentation. -/
def blockScalar (folds : Bool) (outer : Int) (c : Cursor) : Except YamlFault (List Char × Cursor) := do
  let ((chomping, increment), c) ← blockMarks c
  let c ← commentLine c
  let least := (max (outer + 1) 1).toNat
  let (breaks, indent, c) :=
    match increment with
    | some n =>
      let (breaks, c) := blockBreaks (least + n - 1) (c.rest.length + 1) c
      (breaks, least + n - 1, c)
    | none =>
      let ((breaks, deepest), c) := leadingBreaks (c.rest.length + 1) 0 c
      (breaks, max least deepest, c)
  let ((text, last, tail), c) := blockLines folds indent (c.rest.length + 1) breaks c
  match chomping with
  | .none => return (text, c)
  | .one => return (text ++ last, c)
  | .all => return (text ++ last ++ tail, c)

end Yaml
end RollupAudit
