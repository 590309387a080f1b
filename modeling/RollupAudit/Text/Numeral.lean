import RollupAudit.Number.Basic
import RollupAudit.Text.DecimalDigit

/-!
# Numerals

Integers in base ten. A number with more than 4300 digits has no text: writing it is refused.
-/

namespace RollupAudit
namespace Text

/-- The largest number of digits that an integer is written with. -/
def maxDigits : Nat := 4300

/-- An integer of at most `maxDigits` digits. -/
def isWritable (n : Int) : Bool :=
  n.natAbs < 10 ^ maxDigits

/-- The digits of an integer, with a sign when it is negative. -/
def intText : Int → String
  | .ofNat n => String.ofList (Nat.toDigits 10 n)
  | .negSucc n => String.ofList ('-' :: Nat.toDigits 10 (n + 1))

/-- The text of an integer, unless it has too many digits. -/
def intText? (n : Int) : Option String :=
  if isWritable n then some (intText n) else none

/-- The refusal to write an integer with too many digits. -/
def tooManyDigitsMessage : String :=
  "Exceeds the limit (4300 digits) for integer string conversion; " ++
    "use sys.set_int_max_str_digits() to increase the limit"

/-- A list in groups of three counted from its end, given the length of the list. -/
def groupDigits : List Char → List Char
  | [] => []
  | c :: cs => if cs.length % 3 = 0 && !cs.isEmpty then c :: ',' :: groupDigits cs else c :: groupDigits cs

/-- The text of an integer with a comma before each group of three digits. -/
def groupedText (n : Int) : String :=
  let digits := groupDigits (Nat.toDigits 10 n.natAbs)
  String.ofList (if n < 0 then '-' :: digits else digits)

/-- The digits of a number in a base, with zeros in front up to a width. -/
def paddedDigits (base width n : Nat) : List Char :=
  let digits := Nat.toDigits base n
  List.replicate (width - digits.length) '0' ++ digits

end Text
end RollupAudit
