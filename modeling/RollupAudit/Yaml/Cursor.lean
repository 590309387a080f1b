import RollupAudit.Text.CodePoint

/-!
# Places in a document

A place in a text with its line and column, and the classes of characters that the form of a
document rests on. A line ends with a line feed, a next line, a line separator or a paragraph
separator.
-/

namespace RollupAudit
namespace Yaml

/-- The characters that a document may hold. -/
def allowedRanges : List (Nat × Nat) := [
  (0x9, 0xa), (0xd, 0xd), (0x20, 0x7e), (0x85, 0x85), (0xa0, 0xd7ff), (0xe000, 0xfffd),
  (0x10000, 0x10ffff)]

/-- A character that a document may hold. -/
def isAllowed (c : Char) : Bool := Text.inRanges allowedRanges c.toNat

/-- The end of a line. -/
def isBreak (c : Char) : Bool :=
  c == '\n' || c == '\x85' || c == '\u2028' || c == '\u2029'

/-- A space or the end of a line. -/
def isSpaceOrBreak (c : Char) : Bool := c == ' ' || isBreak c

/-- A space, a tab or the end of a line. -/
def isGap (c : Char) : Bool := c == '\t' || isSpaceOrBreak c

/-- A letter, digit, hyphen or underscore. -/
def isWordChar (c : Char) : Bool := c.isAlphanum || c == '-' || c == '_'

/-- The mark of the order of octets, which takes no column. -/
def orderMark : Char := '\ufeff'

/-- A place in a text: what follows, and where it stands. -/
structure Cursor where
  rest : List Char
  index : Nat := 0
  line : Nat := 0
  column : Nat := 0

namespace Cursor

/-- The next character. -/
def peek (c : Cursor) : Option Char := c.rest.head?

/-- The character after the next one. -/
def peekNext (c : Cursor) : Option Char := c.rest[1]?

/-- Whether a character of a class comes next. -/
def at_ (c : Cursor) (p : Char → Bool) : Bool := c.peek.any p

/-- Whether a character of a class comes next, or the text ends. -/
def atOrEnd (c : Cursor) (p : Char → Bool) : Bool := c.peek.all p

/-- The place after the next character. -/
def next (c : Cursor) : Cursor :=
  match c.rest with
  | [] => c
  | ch :: rest =>
    if isBreak ch then ⟨rest, c.index + 1, c.line + 1, 0⟩
    else ⟨rest, c.index + 1, c.line, if ch = orderMark then c.column else c.column + 1⟩

/-- The place a number of characters later. -/
def advance (c : Cursor) : Nat → Cursor
  | 0 => c
  | n + 1 => c.next.advance n

/-- The next characters of a class, and the place after them. -/
def span (c : Cursor) (p : Char → Bool) : List Char × Cursor :=
  let run := c.rest.takeWhile p
  (run, c.advance run.length)

/-- The place after the next characters of a class. -/
def skip (c : Cursor) (p : Char → Bool) : Cursor := (c.span p).2

/-- The place after spaces. -/
def skipSpaces (c : Cursor) : Cursor := c.skip (· == ' ')

/-- The place after a comment, if one comes next. -/
def skipComment (c : Cursor) : Cursor :=
  if c.at_ (· == '#') then c.skip fun ch => !isBreak ch else c

/-- The end of a line as it counts within a scalar, and the place after it. -/
def takeBreak? (c : Cursor) : Option (Char × Cursor) :=
  match c.peek with
  | some ch =>
    if ch == '\n' || ch == '\x85' then some ('\n', c.next)
    else if isBreak ch then some (ch, c.next)
    else none
  | none => none

/-- The place after the end of a line, if one comes next. -/
def skipBreak (c : Cursor) : Cursor := (c.takeBreak?.map Prod.snd).getD c

/-- Whether a row of characters comes next, with a gap or the end of the text after it. -/
def atWord (c : Cursor) (word : List Char) : Bool :=
  c.rest.take word.length == word && (c.rest.drop word.length).head?.all isGap

/-- Whether three hyphens stand here alone. -/
def atDocumentStart (c : Cursor) : Bool := c.atWord ['-', '-', '-']

/-- Whether three points stand here alone. -/
def atDocumentEnd (c : Cursor) : Bool := c.atWord ['.', '.', '.']

/-- Whether the mark of a start or end of a document stands here. -/
def atDocumentMark (c : Cursor) : Bool := c.atDocumentStart || c.atDocumentEnd

end Cursor
end Yaml
end RollupAudit
