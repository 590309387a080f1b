import RollupAudit.Number.Decimal
import RollupAudit.Text.Scientific

/-!
# Texts of decimal numbers

Writing keeps every digit: positional when the exponent is at most zero and at most six zeros
follow the point, scientific with a capital E otherwise. Reading is exact and refuses numbers
outside the exponent range.
-/

namespace RollupAudit
namespace Decimal

/-- The least power of the first digit that no longer is written positionally. -/
def leastPositional : Int := -6

/-- The exponent of a scientific text, with its sign. -/
def powerText (e : Int) : List Char :=
  'E' :: (if e < 0 then '-' else '+') :: Nat.toDigits 10 e.natAbs

/-- The text of the magnitude of a number. -/
def magnitudeText (d : Decimal) : List Char :=
  let digits := Nat.toDigits 10 d.coefficient
  let leading := d.adjusted
  if d.exponent ≤ 0 ∧ leastPositional ≤ leading then
    let point := leading + 1
    if d.exponent = 0 then digits
    else if point ≤ 0 then '0' :: '.' :: List.replicate (-point).toNat '0' ++ digits
    else digits.take point.toNat ++ '.' :: digits.drop point.toNat
  else
    let power := if leading = 0 then [] else powerText leading
    match digits with
    | [] => []
    | [c] => c :: power
    | c :: cs => c :: '.' :: cs ++ power

/-- The text of a number. -/
def text (d : Decimal) : String :=
  String.ofList (if d.negative then '-' :: d.magnitudeText else d.magnitudeText)

/-- The largest power of the first digit that a number can have. -/
def greatestExponent : Int := 999999999999999999

/-- The least exponent that a number can have. -/
def leastExponent : Int := -1999999999999999997

/-- Whether a number can be held exactly. -/
def inRange (d : Decimal) : Bool :=
  leastExponent ≤ d.exponent &&
    (if d.coefficient = 0 then d.exponent else d.adjusted) ≤ greatestExponent

end Decimal

namespace ExtendedDecimal

/-- The text of an extended number. -/
def text : ExtendedDecimal → String
  | .finite d => d.text
  | .infinite s => if s then "-Infinity" else "Infinity"
  | .nan s signaling payload =>
    (if s then "-" else "") ++ (if signaling then "sNaN" else "NaN") ++
      (if payload = 0 then "" else toString payload)

/-- The payload after a not-a-number. -/
def readPayload? (cs : List Char) : Option Nat :=
  if cs.isEmpty then some 0 else Text.readDigits? cs

/-- A finite number, if it can be held exactly. -/
def ofDecimal? (d : Decimal) : Option ExtendedDecimal :=
  if d.inRange then some (.finite d) else none

/-- Reading the text of a number. Outer blanks and all underscores are ignored, and digits of any
script count. -/
def read? (s : String) : Option ExtendedDecimal :=
  let cs := (Text.trimBy Text.isBlank s.toList).filter (· ≠ '_')
  let (negative, body) := Text.readSign (Text.asciiDigits cs)
  match Text.asciiLower body with
  | ['i', 'n', 'f'] => some (.infinite negative)
  | ['i', 'n', 'f', 'i', 'n', 'i', 't', 'y'] => some (.infinite negative)
  | 'n' :: 'a' :: 'n' :: payload => (readPayload? payload).map (.nan negative false)
  | 's' :: 'n' :: 'a' :: 'n' :: payload => (readPayload? payload).map (.nan negative true)
  | _ =>
    (Text.readScientific? body).bind fun n => ofDecimal? ⟨negative, n.coefficient, n.exponent⟩

end ExtendedDecimal
end RollupAudit
