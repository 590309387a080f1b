import RollupAudit.Number.Binary64

/-!
# Arithmetic of binary floating-point numbers

Sums and products are the exact ones rounded once. A sum that cancels is a positive zero.
-/

namespace RollupAudit
namespace Binary64

/-- The sum of two numbers. -/
def add : Binary64 → Binary64 → Binary64
  | .nan, _ | _, .nan => .nan
  | .infinite s, .infinite t => if s = t then .infinite s else .nan
  | .infinite s, .finite .. => .infinite s
  | .finite .., .infinite t => .infinite t
  | .finite s r, .finite t q =>
    let sum := signedUnits s r + signedUnits t q
    if sum = 0 then zero (s && t) else ofQuotient (sum < 0) sum.natAbs unitsPerOne

/-- The product of two numbers. -/
def mul : Binary64 → Binary64 → Binary64
  | .nan, _ | _, .nan => .nan
  | .infinite s, .infinite t => .infinite (s != t)
  | .infinite s, .finite t q => if q.val = 0 then .nan else .infinite (s != t)
  | .finite s r, .infinite t => if r.val = 0 then .nan else .infinite (s != t)
  | .finite s r, .finite t q => ofQuotient (s != t) (units r * units q) (unitsPerOne * unitsPerOne)

/-- The number with the other sign. -/
def neg : Binary64 → Binary64
  | .nan => .nan
  | .infinite s => .infinite (!s)
  | .finite s r => .finite (!s) r

end Binary64
end RollupAudit
