/-!
# Powers and rounded quotients

Powers with natural numbers as exponents, and the integer nearest to a quotient of natural numbers, a
tie going to the even neighbour.
-/

namespace RollupAudit

/-- The power of the core library comes before those that other libraries define. -/
@[default_instance high]
instance (priority := 1100) corePow {α : Type} [NatPow α] : Pow α Nat := instPowNat

/-- The natural number nearest to `n / d`; of two equally near ones, the even one. -/
def roundHalfEven (n d : Nat) : Nat :=
  let q := n / d
  let twice := 2 * (n % d)
  if twice < d then q
  else if d < twice then q + 1
  else q + q % 2

@[simp] theorem roundHalfEven_mul (q : Nat) {d : Nat} (h : 0 < d) : roundHalfEven (q * d) d = q := by
  simp [roundHalfEven, Nat.mul_div_cancel _ h, h]

/-- The rounded quotient is one of the two integers around the quotient. -/
theorem roundHalfEven_eq_or (n d : Nat) :
    roundHalfEven n d = n / d ∨ roundHalfEven n d = n / d + 1 := by
  simp only [roundHalfEven]
  split
  · exact .inl rfl
  · split
    · exact .inr rfl
    · have := Nat.mod_two_eq_zero_or_one (n / d)
      omega

end RollupAudit
