import RollupAudit.Number.Decimal

/-!
# Products of decimal numbers

A product is rounded to 28 significant digits, a half going to the even digit. It overflows when
its first digit counts more than `10 ^ 999999`, and loses digits below `10 ^ (-1000026)`.
-/

namespace RollupAudit
namespace Decimal

/-- The number of significant digits of a product. -/
def precision : Nat := 28

/-- The greatest power of the first digit of a product. -/
def greatestPower : Int := 999999

/-- The least power of any digit of a product. -/
def leastPower : Int := -1000026

/-- The number rounded to a multiple of `10 ^ e`, for an `e` above its exponent. -/
def roundTo (e : Int) (d : Decimal) : Decimal :=
  let shift := e - d.exponent
  if Int.ofNat d.digitCount < shift then ⟨d.negative, 0, e⟩
  else ⟨d.negative, roundHalfEven d.coefficient (10 ^ shift.toNat), e⟩

/-- The exponent to which a number is rounded. -/
def targetExponent (d : Decimal) : Int :=
  max leastPower (d.adjusted + 1 - precision)

/-- A number that rounding carried to one digit too many, with its last zero dropped. -/
def dropCarry (d : Decimal) : Decimal :=
  if precision < d.digitCount then ⟨d.negative, d.coefficient / 10, d.exponent + 1⟩ else d

/-- A number brought to the precision and range of a product; nothing if it overflows. -/
def finish? (d : Decimal) : Option Decimal :=
  if d.coefficient = 0 then
    some { d with exponent := min (max d.exponent leastPower) greatestPower }
  else if greatestPower < d.adjusted then none
  else if d.targetExponent ≤ d.exponent then some d
  else
    let r := (d.roundTo d.targetExponent).dropCarry
    if r.coefficient ≠ 0 ∧ greatestPower < r.adjusted then none else some r

/-- The exact product. -/
def exactMul (x y : Decimal) : Decimal :=
  ⟨x.negative != y.negative, x.coefficient * y.coefficient, x.exponent + y.exponent⟩

/-- The product of two numbers; nothing if it overflows. -/
def mul? (x y : Decimal) : Option Decimal :=
  (x.exactMul y).finish?

end Decimal
end RollupAudit
