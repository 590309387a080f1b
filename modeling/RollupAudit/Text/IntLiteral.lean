import RollupAudit.Text.Blank
import RollupAudit.Text.Numeral
import RollupAudit.Text.Scientific

/-!
# Integer literals

Integers as people write them: outer white space, a sign, digits of any script, and a single
underscore between two digits. In the bases two, eight and sixteen a letter may tell the base. A
literal in base ten has at most 4300 digits.
-/

namespace RollupAudit
namespace Text

/-- Why a text is no integer literal. -/
inductive LiteralFault
  | malformed
  | tooManyDigits (count : Nat)
  deriving DecidableEq, Repr

/-- The refusal to read an integer with too many digits. -/
def tooManyDigitsReadMessage (count : Nat) : String :=
  "Exceeds the limit (4300 digits) for integer string conversion: value has " ++ toString count ++
    " digits; use sys.set_int_max_str_digits() to increase the limit"

/-- The value of a digit of a base up to sixteen. -/
def digitOfBase? (base : Nat) (c : Char) : Option Nat :=
  let n? :=
    if c.isDigit then some (c.toNat - '0'.toNat)
    else if 'a' ≤ c ∧ c ≤ 'f' then some (c.toNat - 'a'.toNat + 10)
    else if 'A' ≤ c ∧ c ≤ 'F' then some (c.toNat - 'A'.toNat + 10)
    else none
  n?.filter fun n => n < base

/-- The digits at the start of a text, and the rest. Nothing if an underscore does not stand between
digits; `open_` says that no digit was before the text. -/
def literalDigits? (base : Nat) (open_ : Bool) : List Char → Option (List Nat × List Char)
  | [] => if open_ then none else some ([], [])
  | c :: cs =>
    if c = '_' then (if open_ then none else literalDigits? base true cs)
    else
      match digitOfBase? base c with
      | some d => (literalDigits? base false cs).map fun r => (d :: r.1, r.2)
      | none => if open_ then none else some ([], c :: cs)

/-- The letter that tells a base. -/
def baseLetter? : Nat → Option Char
  | 2 => some 'b'
  | 8 => some 'o'
  | 16 => some 'x'
  | _ => none

/-- What follows the mark of a base, if the text has it. -/
def afterBaseMark? (base : Nat) : List Char → Option (List Char)
  | '0' :: c :: cs => if some c.toLower = baseLetter? base then some cs else none
  | _ => none

/-- The number that digits denote in a base. -/
def numberOfDigits (base : Nat) (digits : List Nat) : Nat :=
  digits.foldl (fun n d => n * base + d) 0

/-- The digits of a literal without its sign, and the rest. -/
def literalBody? (base : Nat) (cs : List Char) : Option (List Nat × List Char) :=
  match afterBaseMark? base cs with
  | some cs => (literalDigits? base false cs).filter fun r => !r.1.isEmpty
  | none => literalDigits? base true cs

/-- The integer that a literal of a base denotes. -/
def readLiteral (base : Nat) (s : String) : Except LiteralFault Int :=
  let (negative, body) := readSign (asciiDigits (trimBy isWhiteSpace s.toList))
  match literalBody? base body with
  | none => .error .malformed
  | some (digits, rest) =>
    if base = 10 ∧ maxDigits < digits.length then .error (.tooManyDigits digits.length)
    else if !rest.isEmpty then .error .malformed
    else
      let n := Int.ofNat (numberOfDigits base digits)
      .ok (if negative then -n else n)

/-- The refusal to read a text as an integer of a base. -/
def malformedLiteralMessage (base : Nat) (shown : String) : String :=
  "invalid literal for int() with base " ++ toString base ++ ": " ++ shown

end Text
end RollupAudit
