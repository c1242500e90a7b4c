import Tokenomics.Powers

/-!
# Powers of ten in order

How powers of ten compare, and how a power is divided by a smaller one.
-/

namespace Tokenomics

theorem tenPow_le_tenPow {j k : Nat} (h : j ≤ k) : tenPow j ≤ tenPow k :=
  Nat.pow_le_pow_right (by decide) h

/-- A power of ten is its quotient by a smaller one times that one. -/
theorem tenPow_sub_mul {j k : Nat} (h : j ≤ k) : tenPow (k - j) * tenPow j = tenPow k := by
  rw [← tenPow_add, Nat.sub_add_cancel h]

end Tokenomics
