import Tokenomics.Powers

/-!
# Decimals

Signed decimal numbers with bounded digits: `magnitude / 10 ^ scale` with a sign, the magnitude
below `2 ^ 96` and the scale at most 28. The scale is kept: `2.50` and `2.5` are different decimals
with the same value. Zero has a sign too, which shows only when it is written.

Order compares values. `truncate`, `truncateTo` and `normalize` change the scale: the first two
drop digits toward zero, the last drops zeros only.
-/

namespace Tokenomics

/-- A decimal number `magnitude / 10 ^ scale`, negated if so marked. -/
structure Decimal where
  negative : Bool
  /-- The digits without the point. -/
  magnitude : Nat
  /-- How many of the digits stand behind the point. -/
  scale : Nat
  magnitude_lt : magnitude < 1 <<< 96
  scale_le : scale ≤ 28
deriving DecidableEq

namespace Decimal

/-- The digits with the sign, without the point. -/
def coefficient (a : Decimal) : Int := if a.negative then -a.magnitude else a.magnitude

/-- The decimal with this sign, magnitude and scale, if the last two are within bounds. -/
def ofParts? (negative : Bool) (magnitude scale : Nat) : Option Decimal :=
  if h : magnitude < 1 <<< 96 ∧ scale ≤ 28 then some ⟨negative, magnitude, scale, h.1, h.2⟩
  else none

/-- The decimal with this coefficient and scale, if both are within bounds; zero has no sign. -/
def mk? (coefficient : Int) (scale : Nat) : Option Decimal :=
  ofParts? (coefficient < 0) coefficient.natAbs scale

/-- The decimal `n` of scale zero. -/
def ofNat (n : Nat) (h : n < 1 <<< 96 := by decide) : Decimal :=
  ⟨false, n, 0, h, Nat.zero_le 28⟩

/-- The decimal of `n` hundredths. -/
def hundredths (n : Nat) (h : n < 1 <<< 96 := by decide) : Decimal := ⟨false, n, 2, h, by decide⟩

/-- Zero without a fraction. -/
def zero : Decimal := ofNat 0

/-- One without a fraction. -/
def one : Decimal := ofNat 1

instance : Inhabited Decimal := ⟨zero⟩

/-- Whether the value is zero, at whatever scale and of either sign. -/
def isZero (a : Decimal) : Bool := a.magnitude == 0

/-! ## Order by value -/

/-- The coefficient that `a` would have with `b`'s places added to its own. -/
def scaledBy (a b : Decimal) : Int := a.coefficient * tenPow b.scale

/-- The value of `a` is below the value of `b`. -/
protected def lt (a b : Decimal) : Prop := a.scaledBy b < b.scaledBy a

/-- The value of `a` is at most the value of `b`. -/
protected def le (a b : Decimal) : Prop := a.scaledBy b ≤ b.scaledBy a

/-- Equal in value, whatever the scales. -/
def SameValue (a b : Decimal) : Prop := a.scaledBy b = b.scaledBy a

instance : LT Decimal := ⟨Decimal.lt⟩
instance : LE Decimal := ⟨Decimal.le⟩
instance : DecidableLT Decimal := fun a b ↦
  inferInstanceAs (Decidable (a.scaledBy b < b.scaledBy a))
instance : DecidableLE Decimal := fun a b ↦
  inferInstanceAs (Decidable (a.scaledBy b ≤ b.scaledBy a))

instance (a b : Decimal) : Decidable (SameValue a b) :=
  inferInstanceAs (Decidable (a.scaledBy b = b.scaledBy a))

/-! ## Dropping digits -/

/-- Part of the digits with the sign of `a`, which is lost when only zeros of it are left. -/
def withDigits (a : Decimal) (magnitude scale : Nat) (h : magnitude ≤ a.magnitude)
    (hs : scale ≤ a.scale) : Decimal :=
  ⟨a.negative && magnitude != 0, magnitude, scale, Nat.lt_of_le_of_lt h a.magnitude_lt,
    Nat.le_trans hs a.scale_le⟩

/-- The value with all digits from place `places + 1` on dropped, and that scale; unchanged when
there are none. Only zero keeps the sign of a zero. -/
def truncateTo (places : Nat) (a : Decimal) : Decimal :=
  if h : a.scale ≤ places then a
  else if a.isZero then ⟨a.negative, 0, places, by decide, Nat.le_trans (by omega) a.scale_le⟩
  else
    a.withDigits (a.magnitude / tenPow (a.scale - places)) places (Nat.div_le_self _ _) (by omega)

/-- The whole part. -/
def truncate (a : Decimal) : Decimal := a.truncateTo 0

/-- The magnitude and scale left when final zeros behind the point are dropped. -/
def stripZeros (n : Nat) : Nat → Nat × Nat
  | 0 => (n, 0)
  | s + 1 => if n % 10 = 0 then stripZeros (n / 10) s else (n, s + 1)

theorem stripZeros_magnitude_le (n s : Nat) : (stripZeros n s).1 ≤ n := by
  induction s generalizing n with
  | zero => exact Nat.le_refl _
  | succ s ih =>
    rw [stripZeros]
    split
    · exact Nat.le_trans (ih _) (Nat.div_le_self _ _)
    · exact Nat.le_refl _

theorem stripZeros_scale_le (n s : Nat) : (stripZeros n s).2 ≤ s := by
  induction s generalizing n with
  | zero => exact Nat.le_refl _
  | succ s ih =>
    rw [stripZeros]
    split
    · exact Nat.le_succ_of_le (ih _)
    · exact Nat.le_refl _

/-- The same value at the least scale that holds it. -/
def normalize (a : Decimal) : Decimal :=
  a.withDigits (stripZeros a.magnitude a.scale).1 (stripZeros a.magnitude a.scale).2
    (stripZeros_magnitude_le _ _) (stripZeros_scale_le _ _)

/-- How many digits behind the point the value really needs. -/
def fractionDigits (a : Decimal) : Nat := a.normalize.scale

/-- The whole part of a value that is not negative; none for a negative one. -/
def floor? (a : Decimal) : Option Nat :=
  if a.coefficient < 0 then none else some (a.magnitude / tenPow a.scale)

end Decimal

end Tokenomics
