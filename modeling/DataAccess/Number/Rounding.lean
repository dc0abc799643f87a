/-!
# Rounding a quotient

The one rounding rule of the library: a quotient of naturals goes to the nearest natural, and a
quotient half way between two goes to the even one.
-/

namespace DataAccess.Number

/-- The natural nearest to `num / den`; half way between two it is the even one. -/
def roundHalfEven (num den : Nat) : Nat :=
  let q := num / den
  let r := num % den
  if 2 * r < den then q
  else if den < 2 * r then q + 1
  else if q % 2 = 0 then q else q + 1

/-- A natural is its own rounding. -/
theorem roundHalfEven_mul_self (n : Nat) {den : Nat} (h : 0 < den) :
    roundHalfEven (n * den) den = n := by
  simp [roundHalfEven, Nat.mul_div_cancel n h, h]

end DataAccess.Number
