import Tokenomics.Binary64.Basic
import Tokenomics.Text.Numeral

/-!
# Reading decimals the quick way

`Binary64.approximate?` reads a decimal numeral in floating point arithmetic: the leading digits
that fit a machine word become a number, all further digits count only by their place, and the
number is multiplied or divided by a power of ten. The result can miss the nearest number by a
rounding step. A result beyond all finite numbers is refused.
-/

namespace Tokenomics.Binary64

/-- The leading digits as a number below `2 ^ 64`, `n` having been read before them, and how many
digits were taken. -/
def wordDigits (n : Nat) : List Char → Nat × Nat
  | [] => (n, 0)
  | c :: cs =>
    let next := 10 * n + Numeral.digitValue c
    if next < 1 <<< 64 then
      let (m, taken) := wordDigits next cs
      (m, taken + 1)
    else (n, 0)

/-- Divide by `10 ^ k` in steps of at most 308 places, as many as `steps` of them; three full
steps leave nothing of any machine word. -/
def divideByTens (a : Binary64) : Nat → Nat → Binary64
  | 0, _ => a
  | steps + 1, k =>
    if k ≤ 308 then a.overTen k
    else if a.isZero then a
    else divideByTens (a.overTen 308) steps (k - 308)

/-- The number `n * 10 ^ e`, if it is finite. -/
def scaled? (negative : Bool) (n : Nat) (e : Int) : Option Binary64 :=
  let a := nearest negative n 1
  if e < 0 then some (a.divideByTens 4 (-e).toNat)
  else if e ≤ 308 then some (a.timesTen e.toNat) |>.filter isFinite
  else if a.isZero then some a
  else none

/-- The number written by the digits `whole`, a point, the digits `fraction`, and the exponent
`e`. -/
def approximate? (negative : Bool) (whole fraction : List Char) (e : Int) : Option Binary64 :=
  let (n, taken) := wordDigits 0 whole
  let (m, takenMore) := wordDigits n fraction
  scaled? negative m ((whole.length - taken : Nat) - (takenMore : Int) + e)

end Tokenomics.Binary64
