/-!
# Machine words that stop at their limits

Heights, months and counters are words of 64 bits. Their arithmetic here never wraps around: a
result past the greatest word is the greatest word, and one below zero is zero.
-/

namespace Tokenomics.Word

/-- The greatest word. -/
def greatest : UInt64 := 0xFFFFFFFFFFFFFFFF

/-- The word `n`, or the greatest one. -/
def ofNat (n : Nat) : UInt64 := UInt64.ofNat (min n greatest.toNat)

/-- The sum, or the greatest word. -/
def add (a b : UInt64) : UInt64 := ofNat (a.toNat + b.toNat)

/-- The product, or the greatest word. -/
def mul (a b : UInt64) : UInt64 := ofNat (a.toNat * b.toNat)

/-- The difference, or zero. -/
def sub (a b : UInt64) : UInt64 := ofNat (a.toNat - b.toNat)

theorem toNat_ofNat (n : Nat) : (ofNat n).toNat = min n (1 <<< 64 - 1) := by
  simp only [ofNat, greatest]
  rw [UInt64.toNat_ofNat']
  exact Nat.mod_eq_of_lt (Nat.lt_of_le_of_lt (Nat.min_le_right _ _) (by decide))

theorem toNat_add (a b : UInt64) : (add a b).toNat = min (a.toNat + b.toNat) (1 <<< 64 - 1) :=
  toNat_ofNat _

theorem toNat_mul (a b : UInt64) : (mul a b).toNat = min (a.toNat * b.toNat) (1 <<< 64 - 1) :=
  toNat_ofNat _

theorem toNat_sub (a b : UInt64) : (sub a b).toNat = a.toNat - b.toNat := by
  have := a.toNat_lt
  rw [sub, toNat_ofNat]
  omega

/-- A word below another one has a next word. -/
theorem toNat_succ {a b : UInt64} (h : a < b) : (a + 1).toNat = a.toNat + 1 := by
  have hlt := UInt64.lt_iff_toNat_lt.mp h
  rw [UInt64.toNat_add]
  exact Nat.mod_eq_of_lt (Nat.lt_of_le_of_lt hlt b.toNat_lt)

end Tokenomics.Word
