import RollupAudit.Text.Blank
import RollupAudit.Text.DecimalDigit

/-!
# Scientific numerals

The common grammar of written decimal numbers: digits, an optional point with further digits, and
an optional power of ten. At least one digit stands before the power.
-/

namespace RollupAudit
namespace Text

/-- A written nonnegative number: the digits before and after the point as one row, and the power
of ten that the last of them counts. -/
structure Scientific where
  digits : List Char
  exponent : Int
  deriving DecidableEq, Repr

/-- The integer that the digits of a numeral spell. -/
def Scientific.coefficient (n : Scientific) : Nat :=
  digitsValue n.digits

/-- An optional sign and what follows it; `true` for a minus. -/
def readSign : List Char → Bool × List Char
  | '-' :: cs => (true, cs)
  | '+' :: cs => (false, cs)
  | cs => (false, cs)

/-- A nonempty row of ASCII digits as a number. -/
def readDigits? (cs : List Char) : Option Nat :=
  if !cs.isEmpty && cs.all Char.isDigit then some (digitsValue cs) else none

/-- A signed row of ASCII digits as an integer. -/
def readInt? (cs : List Char) : Option Int :=
  let (negative, rest) := readSign cs
  (readDigits? rest).map fun n => if negative then -Int.ofNat n else Int.ofNat n

/-- The power of ten at the end of a numeral; nothing written stands for zero. -/
def readPower? : List Char → Option Int
  | [] => some 0
  | 'e' :: cs => readInt? cs
  | 'E' :: cs => readInt? cs
  | _ => none

/-- Reading a numeral without a sign. -/
def readScientific? (cs : List Char) : Option Scientific :=
  let whole := cs.takeWhile Char.isDigit
  let rest := cs.dropWhile Char.isDigit
  let (places, rest) :=
    match rest with
    | '.' :: more => (more.takeWhile Char.isDigit, more.dropWhile Char.isDigit)
    | _ => ([], rest)
  if whole.isEmpty && places.isEmpty then none
  else (readPower? rest).map fun e => ⟨whole ++ places, e - places.length⟩

/-- A text with the digits of all scripts as ASCII digits. -/
def asciiDigits (cs : List Char) : List Char :=
  cs.map fun c => (asciiDigit? c).getD c

/-- A text without its underscores, each of which must stand between two digits. -/
def joinDigits? : List Char → Option (List Char)
  | [] => some []
  | '_' :: _ => none
  | c :: '_' :: d :: cs =>
    if c.isDigit && d.isDigit then (joinDigits? (d :: cs)).map (c :: ·) else none
  | c :: cs => (joinDigits? cs).map (c :: ·)

/-- A text without its underscores, none of which may stand at an end or beside another. -/
def dropUnderscores? : List Char → Option (List Char)
  | [] => some []
  | '_' :: _ => none
  | [_, '_'] => none
  | c :: '_' :: cs => (dropUnderscores? cs).map (c :: ·)
  | c :: cs => (dropUnderscores? cs).map (c :: ·)

/-- A text with the ASCII capitals as small letters. -/
def asciiLower (cs : List Char) : List Char :=
  cs.map Char.toLower

end Text
end RollupAudit
