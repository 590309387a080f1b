import RollupAudit.Number.Basic
import RollupAudit.Number.Binary64

/-!
# Decimal numbers

Finite decimal numbers keep their digits: a sign, a coefficient and a power of ten. `1.5` and
`1.50` are different numbers of equal value, and zero has a sign. The extended numbers add the
infinities and what is not a number.
-/

namespace RollupAudit

/-- A finite decimal number `± coefficient * 10 ^ exponent`. -/
structure Decimal where
  negative : Bool
  coefficient : Nat
  exponent : Int
  deriving DecidableEq

/-- A decimal number, an infinity, or not a number with its kind and payload. -/
inductive ExtendedDecimal
  | finite (d : Decimal)
  | infinite (negative : Bool)
  | nan (negative signaling : Bool) (payload : Nat)
  deriving DecidableEq

namespace Decimal

/-- The integer as a decimal number without a fraction. -/
def ofInt (n : Int) : Decimal :=
  ⟨n < 0, n.natAbs, 0⟩

/-- The number one. -/
def one : Decimal := ofInt 1

/-- The number of digits of the coefficient. -/
def digitCount (d : Decimal) : Nat :=
  (Nat.toDigits 10 d.coefficient).length

/-- The power of ten of the first digit. -/
def adjusted (d : Decimal) : Int :=
  d.exponent + d.digitCount - 1

def isZero (d : Decimal) : Bool :=
  d.coefficient == 0

/-- The coefficient with its sign. -/
def signed (d : Decimal) : Int :=
  if d.negative then -Int.ofNat d.coefficient else Int.ofNat d.coefficient

/-- The value of a number as a multiple of `10 ^ e`, for an `e` at most its exponent. -/
def alignedTo (e : Int) (d : Decimal) : Int :=
  d.signed * 10 ^ (d.exponent - e).toNat

/-- The order of two magnitudes. Different powers of the first digit decide without aligning the
coefficients. -/
def compareMagnitude (x y : Decimal) : Ordering :=
  if x.coefficient = 0 ∨ y.coefficient = 0 then compare x.coefficient y.coefficient
  else
    match compare x.adjusted y.adjusted with
    | .eq =>
      let e := min x.exponent y.exponent
      compare (x.alignedTo e).natAbs (y.alignedTo e).natAbs
    | o => o

/-- The order of the values of two numbers. -/
def compare (x y : Decimal) : Ordering :=
  if x.isZero && y.isZero then .eq
  else if x.isZero then if y.negative then .gt else .lt
  else if y.isZero then if x.negative then .lt else .gt
  else
    match x.negative, y.negative with
    | false, false => compareMagnitude x y
    | true, true => compareMagnitude y x
    | false, true => .gt
    | true, false => .lt

/-- Equality of values. -/
def numericEq (x y : Decimal) : Bool :=
  x.compare y == .eq

/-- The integer that a number equals, if it equals one. Exponents far beyond the digits are not
expanded. -/
def toInt? (d : Decimal) : Option Int :=
  if d.coefficient = 0 then some 0
  else if 0 ≤ d.exponent then some (d.signed * 10 ^ d.exponent.toNat)
  else if d.adjusted < 0 then none
  else
    let unit := 10 ^ (-d.exponent).toNat
    if d.coefficient % unit = 0 then
      let n := Int.ofNat (d.coefficient / unit)
      some (if d.negative then -n else n)
    else none

/-- The nearest binary floating-point number. -/
def toBinary64 (d : Decimal) : Binary64 :=
  Binary64.ofScaled d.negative d.coefficient d.exponent

/-- The exact decimal value of a finite binary floating-point number. -/
def ofBinary64? : Binary64 → Option Decimal
  | .finite negative rank => some ⟨negative, Binary64.units rank * 5 ^ 1074, -1074⟩
  | _ => none

end Decimal

/-- The nearest binary floating-point number; nothing for a signaling not-a-number. -/
def ExtendedDecimal.toBinary64? : ExtendedDecimal → Option Binary64
  | .finite d => some d.toBinary64
  | .infinite s => some (.infinite s)
  | .nan _ false _ => some .nan
  | .nan _ true _ => none

end RollupAudit
