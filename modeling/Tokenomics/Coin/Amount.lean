import Tokenomics.Text.Numeral

/-!
# Amounts

Natural numbers below `2 ^ 128`, in which coins are counted. Addition comes in two forms: one
that fails when the sum is too large and one that stops at the largest amount.
-/

namespace Tokenomics

/-- A number of base units. -/
structure Amount where
  toNat : Nat
  toNat_lt : toNat < 1 <<< 128
deriving DecidableEq

namespace Amount

/-- The amount `n`, if it is one. -/
def ofNat? (n : Nat) : Option Amount := if h : n < 1 <<< 128 then some ⟨n, h⟩ else none

/-- No units. -/
def zero : Amount := ⟨0, by decide⟩

/-- The largest amount. -/
def greatest : Amount := ⟨1 <<< 128 - 1, by decide⟩

instance : Inhabited Amount := ⟨zero⟩

/-- An amount of one machine word. -/
def ofUInt64 (n : UInt64) : Amount := ⟨n.toNat, Nat.lt_trans n.toNat_lt (by decide)⟩

/-- Whether there are no units. -/
def isZero (a : Amount) : Bool := a.toNat == 0

instance : LT Amount := ⟨fun a b ↦ a.toNat < b.toNat⟩
instance : LE Amount := ⟨fun a b ↦ a.toNat ≤ b.toNat⟩
instance (a b : Amount) : Decidable (a < b) := inferInstanceAs (Decidable (a.toNat < b.toNat))
instance (a b : Amount) : Decidable (a ≤ b) := inferInstanceAs (Decidable (a.toNat ≤ b.toNat))

/-- The sum, if it is an amount. -/
def add? (a b : Amount) : Option Amount := ofNat? (a.toNat + b.toNat)

/-- The sum, or the largest amount. -/
def addSaturating (a b : Amount) : Amount := (a.add? b).getD greatest

/-- The units of `a` beyond those of `b`; none when `b` is the larger. -/
def sub (a b : Amount) : Amount :=
  ⟨a.toNat - b.toNat, Nat.lt_of_le_of_lt (Nat.sub_le ..) a.toNat_lt⟩

/-- The sum of a list, or the largest amount. -/
def total (l : List Amount) : Amount := l.foldl addSaturating zero

/-- The amount in digits. -/
def text (a : Amount) : String := Numeral.text a.toNat

@[ext]
theorem ext {a b : Amount} (h : a.toNat = b.toNat) : a = b := by
  cases a
  cases b
  simp_all

@[simp]
theorem toNat_zero : zero.toNat = 0 := rfl

theorem toNat_sub (a b : Amount) : (a.sub b).toNat = a.toNat - b.toNat := rfl

theorem add?_eq_some {a b c : Amount} : a.add? b = some c ↔ c.toNat = a.toNat + b.toNat := by
  rw [add?, ofNat?]
  split
  · rw [Option.some.injEq]
    constructor
    · rintro rfl
      rfl
    · intro h
      exact ext h.symm
  · rename_i h
    have := c.toNat_lt
    constructor
    · simp
    · omega

theorem toNat_addSaturating (a b : Amount) :
    (a.addSaturating b).toNat = min (1 <<< 128 - 1) (a.toNat + b.toNat) := by
  rw [addSaturating, add?, ofNat?]
  split
  · simp only [Option.getD_some]
    omega
  · simp only [Option.getD_none, greatest]
    omega

end Amount

end Tokenomics
