import Tokenomics.Binary64.Basic
import Tokenomics.Text.Numeral

/-!
# Shortest texts of floating point numbers

`Binary64.text` writes a number with the fewest significant digits that read back as the same
number, and of those with the digits nearest to it. The notation is always positional, without an
exponent and without a point after a whole number.
-/

namespace Tokenomics.Binary64

/-- The interval of reals that read as a number, over a common denominator. -/
structure Reach where
  lower : Nat
  value : Nat
  upper : Nat
  denominator : Nat
  /-- Whether the two ends belong to the interval. -/
  closed : Bool

/-- The reals that round to `m * 2 ^ e`: half a unit to each side, and a quarter below a power of
two, where the numbers lie closer. -/
def reach (m : Nat) (e : Int) : Reach :=
  let (n, d) := ratio 1 e
  let below := if m = 1 <<< 52 && leastExponent < e then 1 else 2
  ⟨(4 * m - below) * n, 4 * m * n, (4 * m + 2) * n, 4 * d, m % 2 = 0⟩

/-- Whether the interval holds `num / den`. -/
def Reach.holds (r : Reach) (num den : Nat) : Bool :=
  let x := num * r.denominator
  if r.closed then r.lower * den ≤ x && x ≤ r.upper * den
  else r.lower * den < x && x < r.upper * den

/-- The digits `d` at the power of ten `k` as a ratio. -/
def pointRatio (d : Nat) (k : Int) : Nat × Nat :=
  if 0 ≤ k then (d * tenPow k.toNat, 1) else (d, tenPow (-k).toNat)

/-- Of the two neighbours of the value on the grid of multiples of `10 ^ k` the one to write, if
the interval holds one: the nearer when it holds both, the upper on a tie. -/
def Reach.digitsAt? (r : Reach) (k : Int) : Option Nat :=
  let (g, h) := pointRatio 1 k
  let d := r.value * h / (r.denominator * g)
  let holds (x : Nat) := let (n, m) := pointRatio x k; r.holds n m
  match holds d, holds (d + 1) with
  | true, true =>
    if (2 * d + 1) * g * r.denominator ≤ 2 * r.value * h then some (d + 1) else some d
  | true, false => some d
  | false, true => some (d + 1)
  | false, false => none

/-- The largest power of ten that is at most the value. -/
def Reach.magnitude (r : Reach) : Int :=
  if r.denominator ≤ r.value then (Numeral.digits (r.value / r.denominator)).length - 1
  else -(Numeral.digits ((r.denominator - 1) / r.value)).length

/-- The fewest digits that read back as the value, with their power of ten. The coarsest grid is
that of the next larger power, which alone may be within reach. -/
def Reach.shortest (r : Reach) : Nat × Int :=
  let found := (List.range 18).findSome? fun (n : Nat) ↦
    let k := r.magnitude + 1 - n
    (r.digitsAt? k).map (·, k)
  found.getD (0, 0)

/-- Digits at a power of ten in positional notation. -/
def positional (ds : List Char) (k : Int) : List Char :=
  if 0 ≤ k then ds ++ List.replicate k.toNat '0'
  else
    let places := (-k).toNat
    if places < ds.length then ds.take (ds.length - places) ++ '.' :: ds.drop (ds.length - places)
    else '0' :: '.' :: (List.replicate (places - ds.length) '0' ++ ds)

/-- The text of a number. -/
def text : Binary64 → String
  | .nan => "NaN"
  | .infinite false => "inf"
  | .infinite true => "-inf"
  | .finite s m e =>
    let body := if m = 0 then ['0'] else
      let (d, k) := (reach m e).shortest
      positional (Numeral.digits d) k
    String.ofList (if s then '-' :: body else body)

end Tokenomics.Binary64
