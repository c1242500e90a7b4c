/-!
# Rounding quotients

The two ways in which this library rounds a quotient of natural numbers to a whole number.
-/

namespace Tokenomics

/-- The quotient `n / d` rounded to the nearest natural number, a tie to the even one. -/
def halfEven (n d : Nat) : Nat :=
  let q := n / d
  let r := 2 * (n % d)
  if r < d then q else if d < r then q + 1 else q + q % 2

/-- The quotient `n / d` rounded to the nearest natural number, a tie up. -/
def halfUp (n d : Nat) : Nat := (2 * n + d) / (2 * d)

end Tokenomics
