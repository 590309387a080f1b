import RollupAudit.Text.Blank
import RollupAudit.Text.Numeral
import RollupAudit.Text.Scientific
import RollupAudit.Validation.Issue

/-!
# Integers in texts of fields

The text of an integer has a sign or none, zeros that do not count, digits with underscores among
them, and perhaps a point followed by zeros. Any number of underscores may stand among the zeros at
the start; after them an underscore stands alone. A minus sign may follow these zeros in place of a
minus sign at the start. An integer has at most 4300 digits that count.
-/

namespace RollupAudit
namespace Scalar

/-- A zero, or an underscore among zeros. -/
def isFiller (c : Char) : Bool := c == '0' || c == '_'

/-- A text without the zeros at its start and the underscores among them. The last of these
characters stays if nothing but a point follows them. -/
def dropLeadingZeros? : List Char → Option (List Char)
  | [] => none
  | '0' :: cs =>
    let last := (cs.takeWhile isFiller).getLastD '0'
    match cs.dropWhile isFiller with
    | [] => some [last]
    | '.' :: more => some (last :: '.' :: more)
    | c :: more => if c.isDigit || c == '-' then some (c :: more) else none
  | c :: cs => if c.isDigit then some (c :: cs) else none

/-- A text without a point and zeros at its end. -/
def dropZeroPlaces (cs : List Char) : List Char :=
  match cs.dropWhile (· != '.') with
  | _ :: d :: ds => if (d :: ds).all (· == '0') then cs.takeWhile (· != '.') else cs
  | _ => cs

/-- The number that digits spell, the first of them not a zero unless it stands alone. That there
are too many digits is seen before what follows them. -/
def readMagnitude (cs : List Char) : Except Cause Nat :=
  match cs with
  | ['0'] => .ok 0
  | '0' :: _ => .error .intParsing
  | _ =>
    if Text.maxDigits < (cs.takeWhile Char.isDigit).length then .error .intParsingSize
    else
      match Text.readDigits? cs with
      | some n => .ok n
      | none => .error .intParsing

/-- The integer that digits spell after a minus sign or none. -/
def readSigned (negative : Bool) (cs : List Char) : Except Cause Int := do
  let n ← readMagnitude cs
  return if negative then -Int.ofNat n else Int.ofNat n

/-- The integer that a text denotes. -/
def readIntText (s : String) : Except Cause Int :=
  let (negative, body) := Text.readSign (Text.trimBy Text.isWhiteSpace s.toList)
  match dropLeadingZeros? body with
  | none => .error .intParsing
  | some rest =>
    let whole := dropZeroPlaces rest
    match (Text.dropUnderscores? whole).getD whole with
    | '-' :: digits => if negative then .error .intParsing else readSigned true digits
    | digits => readSigned negative digits

end Scalar
end RollupAudit
