import RollupAudit.Number.Binary64
import RollupAudit.Text.Numeral

/-!
# Shortest text of a binary floating-point number

A finite number is written with the fewest significant digits that read back as it, and of those
with the digits nearest to its value. The layout is positional for decimal exponents from -4 to 15
and scientific otherwise.
-/

namespace RollupAudit
namespace Binary64

/-- Significant digits `digits` with the decimal exponent of the first one. -/
structure Digits where
  digits : Nat
  count : Nat
  exponent : Int
  deriving DecidableEq

/-- The least `e ≤ bound` with `n * 10 ^ e ≥ d`. -/
def scaleUp (n d : Nat) : Nat → Nat
  | 0 => 0
  | bound + 1 => if d ≤ n then 0 else scaleUp (n * 10) d bound + 1

/-- The decimal exponent of the first significant digit of the positive quotient `n / d`. -/
def leadingExponent (n d : Nat) : Int :=
  if d ≤ n then Int.ofNat (Nat.toDigits 10 (n / d)).length - 1
  else -Int.ofNat (scaleUp n d 400)

/-- The multiple below or at `n / d` of the unit `10 ^ e`, with the scaled numerator and
denominator. -/
def scaledQuotient (n d : Nat) (e : Int) : Nat × Nat :=
  if 0 ≤ e then (n, d * 10 ^ e.toNat) else (n * 10 ^ (-e).toNat, d)

/-- Whether `c * 10 ^ e` reads back as the number with a rank. -/
def readsBack (rank c : Nat) (e : Int) : Bool :=
  ofScaled false c e == ofRank false rank

/-- The multiple of `10 ^ e` that reads back as the number with a rank, the nearer of two, and of
two equally near ones the even one. -/
def nearestReading? (rank : Nat) (e : Int) : Option Nat :=
  let (n, d) := scaledQuotient (units rank) unitsPerOne e
  let near := roundHalfEven n d
  let far := if near = n / d then n / d + 1 else n / d
  if readsBack rank near e then some near
  else if readsBack rank far e then some far
  else none

/-- The first multiple that reads back on the grids `10 ^ e`, `10 ^ (e - 1)`, …, with its
exponent. -/
def firstReading? (rank : Nat) (e : Int) : Nat → Option (Nat × Int)
  | 0 => none
  | fuel + 1 =>
    match nearestReading? rank e with
    | some c => some (c, e)
    | none => firstReading? rank (e - 1) fuel

/-- The exact decimal expansion of the number with a rank: its last digit is the digit of
`10 ^ (-1074)`. -/
def exactExpansion (rank : Nat) : Nat × Int :=
  (units rank * 5 ^ 1074, -1074)

/-- The shortest multiple of a power of ten that reads back as the number with a positive rank. -/
def shortest (rank : Nat) : Nat × Int :=
  (firstReading? rank (leadingExponent (units rank) unitsPerOne) 17).getD (exactExpansion rank)

/-- A number without its trailing zeros, given an upper bound of their count, and that count. -/
def dropTrailingZeros (n : Nat) : Nat → Nat × Nat
  | 0 => (n, 0)
  | bound + 1 =>
    if n ≠ 0 ∧ n % 10 = 0 then
      let (m, k) := dropTrailingZeros (n / 10) bound
      (m, k + 1)
    else (n, 0)

/-- The least decimal exponent written positionally. -/
def leastPositional : Int := -4

/-- The least decimal exponent above the positional ones. -/
def leastScientific : Int := 16

/-- The exponent mark and an exponent of at least two digits. -/
def exponentText (e : Int) : List Char :=
  'e' :: (if e < 0 then '-' else '+') :: Text.paddedDigits 10 2 e.natAbs

/-- The layout of the digits `c * 10 ^ e` of a positive number. -/
def layout (c : Nat) (e : Int) : List Char :=
  let (c, dropped) := dropTrailingZeros c 400
  let digits := Nat.toDigits 10 c
  let e := e + dropped
  let point := e + digits.length
  let leading := point - 1
  if leading < leastPositional || leastScientific ≤ leading then
    match digits with
    | [] => []
    | [d] => d :: exponentText leading
    | d :: ds => d :: '.' :: ds ++ exponentText leading
  else if point ≤ 0 then
    '0' :: '.' :: List.replicate (-point).toNat '0' ++ digits
  else if 0 ≤ e then
    digits ++ List.replicate e.toNat '0' ++ ['.', '0']
  else
    digits.take point.toNat ++ '.' :: digits.drop point.toNat

/-- The text of a finite number without its sign. -/
def magnitudeText (rank : Nat) : List Char :=
  if rank = 0 then ['0', '.', '0']
  else
    let (c, e) := shortest rank
    layout c e

/-- The text of a number. -/
def text : Binary64 → String
  | .nan => "nan"
  | .infinite s => if s then "-inf" else "inf"
  | .finite s r => String.ofList (if s then '-' :: magnitudeText r else magnitudeText r)

/-- The text of a number with a comma before each group of three digits of its integer part. -/
def groupedText (x : Binary64) : String :=
  let cs := x.text.toList
  let sign := cs.takeWhile (· == '-')
  let rest := cs.dropWhile (· == '-')
  let whole := rest.takeWhile Char.isDigit
  String.ofList (sign ++ Text.groupDigits whole ++ rest.dropWhile Char.isDigit)

end Binary64
end RollupAudit
