import Tokenomics.Decimal.Basic
import Tokenomics.Rounding

/-!
# Decimal sums and products

Sums and products are exact as long as the result fits. One that has too many places or too many
digits gives up its last places, as few as possible, rounded half to even (`Decimal.fit?`); one
that does not fit even without places has no result (`ArithmeticOverflow`).
-/

namespace Tokenomics

/-- A decimal operation whose result has no representation. -/
inductive ArithmeticOverflow where
  | addition
  | multiplication
deriving DecidableEq, Inhabited

/-- The wording of an overflow. -/
def ArithmeticOverflow.message : ArithmeticOverflow → String
  | .addition => "Addition overflowed"
  | .multiplication => "Multiplication overflowed"

namespace Decimal

/-- The value `n / 10 ^ s` with its last `k` places rounded away, if the rest fits. -/
def dropPlaces? (negative : Bool) (n s k : Nat) : Option Decimal :=
  ofParts? negative (halfEven n (tenPow k)) (s - k)

/-- The value `n / 10 ^ s` with the fewest places rounded away that make it fit. -/
def fit? (negative : Bool) (n s : Nat) : Option Decimal :=
  (List.range' (s - 28) (min s 28 + 1)).findSome? (dropPlaces? negative n s)

/-- Whether the digits fit into half a machine word. -/
def isShort (a : Decimal) : Bool := a.magnitude < 1 <<< 32

/-- The same decimal, but a zero without a sign. -/
def unsignedZero (a : Decimal) : Decimal := { a with negative := a.negative && !a.isZero }

/-- The product. A zero factor gives the plain zero, and so does a product of two short factors
whose digits all lie behind place 47. A product of short factors that rounds to zero has no sign;
any other one keeps the sign of the exact product. -/
def mul? (a b : Decimal) : Option Decimal :=
  let product := fit? (a.negative != b.negative) (a.magnitude * b.magnitude) (a.scale + b.scale)
  if a.isZero || b.isZero then some zero
  else if a.isShort && b.isShort then
    if 47 < a.scale + b.scale then some zero else product.map unsignedZero
  else product

/-- The sum. A zero leaves the other summand as it is, scale and sign included; otherwise the sum
has the larger of the two scales. -/
def add? (a b : Decimal) : Option Decimal :=
  if a.isZero then some b
  else if b.isZero then some a
  else
    let s := max a.scale b.scale
    let c := a.coefficient * tenPow (s - a.scale) + b.coefficient * tenPow (s - b.scale)
    fit? (c < 0) c.natAbs s

/-- The product, or the overflow. -/
def mul (a b : Decimal) : Except ArithmeticOverflow Decimal :=
  match a.mul? b with
  | some c => .ok c
  | none => .error .multiplication

/-- The sum, or the overflow. -/
def add (a b : Decimal) : Except ArithmeticOverflow Decimal :=
  match a.add? b with
  | some c => .ok c
  | none => .error .addition

/-- The sum of a list from the left. -/
def sum (l : List Decimal) : Except ArithmeticOverflow Decimal := l.foldlM add zero

end Decimal

end Tokenomics
