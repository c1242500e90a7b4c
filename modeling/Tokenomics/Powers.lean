/-!
# Powers of ten

Decimal places are counted by powers of ten. `tenPow` is known by how it grows (`tenPow_succ`,
`tenPow_add`). Powers of two, which bound words and coefficients, are written as shifted ones.
-/

namespace Tokenomics

/-- The `k`-th power of ten. -/
def tenPow (k : Nat) : Nat := Nat.pow 10 k

@[simp]
theorem tenPow_zero : tenPow 0 = 1 := rfl

theorem tenPow_succ (k : Nat) : tenPow (k + 1) = 10 * tenPow k := Nat.mul_comm _ _

theorem tenPow_pos (k : Nat) : 0 < tenPow k := by
  induction k with
  | zero => decide
  | succ k ih =>
    rw [tenPow_succ]
    omega

theorem tenPow_add (j k : Nat) : tenPow (j + k) = tenPow j * tenPow k := by
  induction k with
  | zero => rw [Nat.add_zero, tenPow_zero, Nat.mul_one]
  | succ k ih => rw [← Nat.add_assoc, tenPow_succ, tenPow_succ, ih, Nat.mul_left_comm]

end Tokenomics
