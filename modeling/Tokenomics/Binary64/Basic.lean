import Tokenomics.Powers
import Tokenomics.Rounding

/-!
# Binary floating point numbers of 64 bits

A finite number is a sign, a mantissa below `2 ^ 53` and a power of two, all in exact arithmetic.
`nearest` rounds a ratio of natural numbers to the nearest such number, a tie to the even
mantissa; every other operation is exact arithmetic followed by `nearest`.
-/

namespace Tokenomics

/-- A floating point number of 64 bits. -/
inductive Binary64 where
  /-- The number `mantissa * 2 ^ exponent`, negated if so marked. -/
  | finite (negative : Bool) (mantissa : Nat) (exponent : Int)
  | infinite (negative : Bool)
  | nan
deriving DecidableEq, Inhabited

namespace Binary64

/-- The exponent of the smallest positive number. -/
def leastExponent : Int := -1074

/-- The exponent of the largest finite number. -/
def greatestExponent : Int := 971

/-- The ratio `num / den` divided by `2 ^ e`, as a ratio. -/
def scaleRatio (num den : Nat) (e : Int) : Nat × Nat :=
  if 0 ≤ e then (num, den <<< e.toNat) else (num <<< (-e).toNat, den)

/-- The exponent at which the ratio `num / den` has a mantissa of 53 bits, or the least one. -/
def exponentOf (num den : Nat) : Int :=
  let e := (num.log2 : Int) - den.log2 - 52
  let (n, d) := scaleRatio num den e
  max leastExponent (if n < d <<< 52 then e - 1 else e)

/-- The number nearest to `num / den`, with the given sign. -/
def nearest (negative : Bool) (num den : Nat) : Binary64 :=
  if num = 0 then .finite negative 0 leastExponent
  else
    let e := exponentOf num den
    let (n, d) := scaleRatio num den e
    let m := halfEven n d
    let (m, e) := if m = 1 <<< 53 then (1 <<< 52, e + 1) else (m, e)
    if e ≤ greatestExponent then .finite negative m e else .infinite negative

/-- The magnitude of a finite number as a ratio. -/
def ratio (mantissa : Nat) (exponent : Int) : Nat × Nat :=
  if 0 ≤ exponent then (mantissa <<< exponent.toNat, 1) else (mantissa, 1 <<< (-exponent).toNat)

/-- The number nearest to `n * 10 ^ e`. Exponents beyond the range of any number are cut off,
`digits` being a bound on the number of digits of `n`. -/
def ofScientific (negative : Bool) (n : Nat) (e : Int) (digits : Nat) : Binary64 :=
  if n = 0 then .finite negative 0 leastExponent
  else if 400 < e then .infinite negative
  else if e < -400 - digits then .finite negative 0 leastExponent
  else if 0 ≤ e then nearest negative (n * tenPow e.toNat) 1
  else nearest negative n (tenPow (-e).toNat)

/-- The number nearest to `a * 10 ^ k`, ten's power having been rounded first. -/
def timesTen (a : Binary64) (k : Nat) : Binary64 :=
  match a, nearest false (tenPow k) 1 with
  | .finite s m e, .finite _ m' e' =>
    let (n, d) := ratio m e
    let (n', d') := ratio m' e'
    nearest s (n * n') (d * d')
  | a, _ => a

/-- The number nearest to `a / 10 ^ k`, ten's power having been rounded first. -/
def overTen (a : Binary64) (k : Nat) : Binary64 :=
  match a, nearest false (tenPow k) 1 with
  | .finite s m e, .finite _ m' e' =>
    let (n, d) := ratio m e
    let (n', d') := ratio m' e'
    nearest s (n * d') (d * n')
  | a, _ => a

/-- Whether the number is zero of either sign. -/
def isZero : Binary64 → Bool
  | .finite _ 0 _ => true
  | _ => false

/-- Whether the number is finite. -/
def isFinite : Binary64 → Bool
  | .finite .. => true
  | _ => false

/-- The number rounded to the nearest natural number, a tie up, and cut off at `bound`; zero for
what is negative or not a number. -/
def toNatWithin (bound : Nat) : Binary64 → Nat
  | .finite false m e =>
    let (n, d) := ratio m e
    min bound (halfUp n d)
  | .infinite false => bound
  | _ => 0

end Binary64

end Tokenomics
