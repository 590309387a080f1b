import RollupAudit.Yaml.Tag

/-!
# Writing scalars

The text of a scalar in ASCII. A text is written without quotes if it reads back as itself, else in
single quotes, and in double quotes if it holds a character that needs an escape. A line that has
grown beyond its width is broken at the next blank that stands alone; in double quotes it is broken
after a backslash.
-/

namespace RollupAudit
namespace Yaml

/-- How a scalar is marked as text. -/
inductive Quotes
  | none
  | single
  | double
  deriving DecidableEq, Repr

/-- The column after which a line is broken. -/
def lineWidth : Nat := 80

/-- A line end and the blanks before the next line. -/
def newLine (indent : Nat) : List Char := '\n' :: List.replicate indent ' '

/-! ## The choice of quotes -/

/-- The characters that mark something else at the start of a scalar. -/
def startMarks : List Char :=
  ['#', ',', '[', ']', '\x7b', '\x7d', '&', '*', '!', '|', '>', '\'', '"', '%', '@', '\x60']

/-- The end of a text, or a blank or line end. -/
def isBlankOrEnd (next : Option Char) : Bool :=
  next.elim true fun c => ['\x00', ' ', '\t', '\r', '\n'].contains c

/-- Whether a text after a character holds a colon before a gap or a number sign after one. -/
def holdsMark (previous : Char) : List Char → Bool
  | [] => false
  | c :: cs =>
    (c == ':' && isBlankOrEnd cs.head?) || (c == '#' && isBlankOrEnd (some previous)) || holdsMark c cs

/-- Whether a text can be taken for something else than a scalar. -/
def looksMarked : List Char → Bool
  | [] => false
  | c :: cs =>
    ['-', '-', '-'].isPrefixOf (c :: cs) || ['.', '.', '.'].isPrefixOf (c :: cs) ||
      startMarks.contains c || (['?', ':', '-'].contains c && isBlankOrEnd cs.head?) || holdsMark c cs

/-- A character that stands for itself in single quotes. -/
def isDirect (c : Char) : Bool := c == '\n' || (' ' ≤ c && c ≤ '~')

/-- Whether a blank and a line end stand side by side. -/
def mixesGaps : List Char → Bool
  | ' ' :: '\n' :: _ => true
  | '\n' :: ' ' :: _ => true
  | _ :: cs => mixesGaps cs
  | [] => false

/-- A blank or line end. -/
def isEdge (c : Option Char) : Bool := c == some ' ' || c == some '\n'

/-- The quotes of a text. -/
def quotesOf (s : String) : Quotes :=
  let cs := s.toList
  if !cs.all isDirect || mixesGaps cs then .double
  else if cs.contains '\n' || isEdge cs.head? || isEdge cs.getLast? || looksMarked cs ||
      plainTag s != .text then .single
  else .none

/-! ## Texts without quotes -/

/-- A text at a column, broken at blanks that stand alone. -/
def foldPlain (indent : Nat) : (column : Nat) → (previous : Char) → List Char → List Char
  | _, _, [] => []
  | column, previous, c :: cs =>
    if c == ' ' && previous != ' ' && cs.head? != some ' ' && lineWidth < column then
      newLine indent ++ foldPlain indent indent c cs
    else c :: foldPlain indent (column + 1) c cs

/-! ## Texts in single quotes -/

/-- A text in single quotes at a column. A quote is written twice, and a row of line ends has one
more than it denotes. A blank at the end of the text is kept on its line. -/
def foldSingle (indent : Nat) : (column : Nat) → (previous : Option Char) → List Char → List Char
  | _, previous, [] => (if previous == some '\n' then List.replicate indent ' ' else []) ++ ['\'']
  | column, previous, c :: cs =>
    if c == '\n' then
      (if previous == some '\n' then ['\n'] else ['\n', '\n']) ++ foldSingle indent indent (some c) cs
    else
      let start := if previous == some '\n' then List.replicate indent ' ' else []
      if c == '\'' then start ++ '\'' :: '\'' :: foldSingle indent (column + 2) (some c) cs
      else if c == ' ' && previous.isSome && previous != some ' ' && !cs.isEmpty &&
          cs.head? != some ' ' && lineWidth < column then
        newLine indent ++ foldSingle indent indent (some c) cs
      else start ++ c :: foldSingle indent (column + 1) (some c) cs

/-! ## Texts in double quotes -/

/-- The characters with an escape of two characters. -/
def shortEscapes : List (Char × Char) := [
  ('\x00', '0'), ('\x07', 'a'), ('\x08', 'b'), ('\t', 't'), ('\n', 'n'), ('\x0b', 'v'),
  ('\x0c', 'f'), ('\r', 'r'), ('\x1b', 'e'), ('"', '"'), ('\\', '\\'), ('\x85', 'N'),
  ('\xa0', '_'), ('\u2028', 'L'), ('\u2029', 'P')]

/-- A code point in hexadecimal with capitals. -/
def hexText (width n : Nat) : List Char := (Text.paddedDigits 16 width n).map Char.toUpper

/-- The escape of a code point that does not stand for itself. -/
def escape? (n : Nat) : Option (List Char) :=
  match shortEscapes.find? fun e => e.1.toNat == n with
  | some e => some ['\\', e.2]
  | none =>
    if ' '.toNat ≤ n ∧ n ≤ '~'.toNat then none
    else if n < 0x100 then some ('\\' :: 'x' :: hexText 2 n)
    else if n < 0x10000 then some ('\\' :: 'u' :: hexText 4 n)
    else some ('\\' :: 'U' :: hexText 8 n)

/-- Whether a code point is a blank. -/
def isBlankPoint (next : Option Nat) : Bool := next == some ' '.toNat

/-- A broken line, with a mark for a blank that begins the next line. -/
def brokenLine (indent : Nat) (next : Option Nat) : List Char :=
  '\\' :: newLine indent ++ (if isBlankPoint next then ['\\'] else [])

/-- The column after a broken line. -/
def columnAfter (indent : Nat) (next : Option Nat) : Nat :=
  if isBlankPoint next then indent + 1 else indent

/-- A row of code points in double quotes at a column. Beyond the width the line is broken before a
blank, and beside an escape; never at the first or last of them. -/
def foldDouble (indent : Nat) :
    (column : Nat) → (first afterEscape : Bool) → List Nat → List Char
  | _, _, _, [] => ['"']
  | column, first, afterEscape, n :: ns =>
    let inner := !first && !ns.isEmpty
    match escape? n with
    | some e =>
      if inner && lineWidth < column + e.length then
        e ++ brokenLine indent ns.head? ++
          foldDouble indent (columnAfter indent ns.head?) false true ns
      else e ++ foldDouble indent (column + e.length) false true ns
    | none =>
      if inner && (isBlankPoint (some n) || afterEscape) && lineWidth < column then
        brokenLine indent (some n) ++
          Char.ofNat n :: foldDouble indent (columnAfter indent (some n) + 1) false false ns
      else Char.ofNat n :: foldDouble indent (column + 1) false false ns

/-- A text at a column; further lines of it are indented. -/
def textAt (indent column : Nat) (s : String) : List Char :=
  match quotesOf s with
  | .none => foldPlain indent column '\n' s.toList
  | .single => '\'' :: foldSingle indent (column + 1) none s.toList
  | .double => '"' :: foldDouble indent (column + 1) true false (Text.codePoints s.toList)

end Yaml
end RollupAudit
