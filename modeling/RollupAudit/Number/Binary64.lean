import RollupAudit.Number.Basic

/-!
# Binary floating-point numbers

The numbers of the 64-bit binary format. The nonnegative finite ones, in increasing order, are
numbered from zero; a finite number is a sign and such a rank. The rank of a number is the row of
bits of its exponent and fraction fields, so neighbouring numbers have neighbouring ranks.
-/

namespace RollupAudit

/-- The number of nonnegative finite numbers of the format. -/
def finiteRanks : Nat := 0x7ff0000000000000

/-- A number of the 64-bit binary format. -/
inductive Binary64
  | nan
  | infinite (negative : Bool)
  | finite (negative : Bool) (rank : Fin finiteRanks)
  deriving DecidableEq

namespace Binary64

/-- The zero of a sign. -/
def zero (negative : Bool) : Binary64 :=
  .finite negative ⟨0, by decide⟩

/-- The significand of the number with a rank, in units of its last place. -/
def significand (rank : Nat) : Nat :=
  if rank < 2 ^ 52 then rank else 2 ^ 52 + rank % 2 ^ 52

/-- The last place of the number with a rank, as a power of two times the least positive number. -/
def lastPlace (rank : Nat) : Nat :=
  rank / 2 ^ 52 - 1

/-- The number with a rank as a multiple of the least positive number `2 ^ (-1074)`. -/
def units (rank : Nat) : Nat :=
  significand rank * 2 ^ lastPlace rank

/-- The least positive number is one over this. -/
def unitsPerOne : Nat := 2 ^ 1074

/-- The rank of the number nearest to `n / d`, a tie going to the even rank; beyond the finite
ranks when the quotient is too large. -/
def nearestRank (n d : Nat) : Nat :=
  let scaled := n * unitsPerOne
  let place := (scaled / d).log2 - 52
  place * 2 ^ 52 + roundHalfEven scaled (d * 2 ^ place)

/-- The number with a sign and a rank, infinite beyond the finite ranks. -/
def ofRank (negative : Bool) (rank : Nat) : Binary64 :=
  if h : rank < finiteRanks then .finite negative ⟨rank, h⟩ else .infinite negative

/-- The number nearest to a quotient. -/
def ofQuotient (negative : Bool) (n d : Nat) : Binary64 :=
  ofRank negative (nearestRank n d)

/-- The number nearest to `n * 10 ^ e`. Exponents that leave no doubt about the answer are cut
short. -/
def ofScaled (negative : Bool) (n : Nat) (e : Int) : Binary64 :=
  if n = 0 then zero negative
  else
    let top := Int.ofNat (Nat.toDigits 10 n).length + e
    if 400 < top then .infinite negative
    else if top < -400 then zero negative
    else if 0 ≤ e then ofQuotient negative (n * 10 ^ e.toNat) 1
    else ofQuotient negative n (10 ^ (-e).toNat)

/-- The number nearest to an integer. -/
def ofInt (n : Int) : Binary64 :=
  ofQuotient (n < 0) n.natAbs 1

def isFinite : Binary64 → Bool
  | .finite .. => true
  | _ => false

/-- The exact value of a finite number in units of `2 ^ (-1074)`. -/
def signedUnits (negative : Bool) (rank : Nat) : Int :=
  if negative then -Int.ofNat (units rank) else Int.ofNat (units rank)

/-- The exact integer that a number equals, if it equals one. -/
def toInt? : Binary64 → Option Int
  | .finite negative rank =>
    let u := units rank
    if u % unitsPerOne = 0 then
      let n := Int.ofNat (u / unitsPerOne)
      some (if negative then -n else n)
    else none
  | _ => none

/-- The order of two numbers; nothing if one is not a number. -/
def compare? : Binary64 → Binary64 → Option Ordering
  | .nan, _ => none
  | _, .nan => none
  | .infinite s, .infinite t => some (compare (!s) (!t))
  | .infinite s, .finite .. => some (if s then .lt else .gt)
  | .finite .., .infinite s => some (if s then .gt else .lt)
  | .finite s r, .finite t q => some (compare (signedUnits s r) (signedUnits t q))

/-- The order of a number and an integer, compared exactly; nothing if it is not a number. -/
def compareInt? : Binary64 → Int → Option Ordering
  | .nan, _ => none
  | .infinite s, _ => some (if s then .lt else .gt)
  | .finite s r, n => some (compare (signedUnits s r) (n * Int.ofNat unitsPerOne))

/-- Equality of numbers: the zeros are equal, and nothing equals what is not a number. -/
def numericEq (x y : Binary64) : Bool :=
  x.compare? y == some .eq

end Binary64
end RollupAudit
