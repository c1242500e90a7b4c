import Tokenomics.Proofs.Decimal.Product

/-!
# Products with powers of ten

Multiplying by a power of ten moves the point and changes no digit. But the exact product is written
with the zeros of the power behind the digits of the decimal, and these can be more digits than a
decimal holds. Then places are given up, and nothing but those zeros with them
(`IsPower.le_of_drops`): without them there are left the digits that the decimal had before. So a
product with a power of ten is exact, or there is none because even its whole part is too large
(`IsPower.mul?_cases`).
-/

namespace Tokenomics

theorem halfEven_mul_self {d : Nat} (hd : 0 < d) (q : Nat) : halfEven (q * d) d = q :=
  Nat.le_antisymm (halfEven_le hd (Nat.le_refl _)) (le_halfEven hd (Nat.le_refl _))

namespace Decimal

variable {a b : Decimal} {j k : Nat}

/-- The decimal is a power of ten, written without places. -/
structure IsPower (b : Decimal) (j : Nat) : Prop where
  negative : b.negative = false
  magnitude : b.magnitude = tenPow j
  scale : b.scale = 0

namespace IsPower

theorem places_eq (hb : b.IsPower j) (a : Decimal) : places a b = a.scale := by
  rw [places, hb.scale, Nat.add_zero]

/-- Rounding as many places away as the power has zeros, or fewer, loses nothing. -/
theorem halfEven_digits (hb : b.IsPower j) (a : Decimal) (hk : k ≤ j) :
    halfEven (digits a b) (tenPow k) = a.magnitude * tenPow (j - k) := by
  rw [digits, hb.magnitude, ← tenPow_sub_mul hk, ← Nat.mul_assoc, halfEven_mul_self (tenPow_pos k)]

/-- No more places are given up than the power has zeros. -/
theorem le_of_drops (hb : b.IsPower j) (hk : Drops (digits a b) (places a b) k) : k ≤ j := by
  by_contra hlt
  have hplaces : places a b - 28 ≤ j := by
    rw [hb.places_eq, Nat.sub_eq_zero_of_le a.scale_le]
    exact Nat.zero_le j
  have hlarge := hk.least j hplaces (Nat.lt_of_not_le hlt)
  rw [hb.halfEven_digits a (Nat.le_refl j), Nat.sub_self, tenPow_zero, Nat.mul_one] at hlarge
  exact absurd a.magnitude_lt (Nat.not_lt.mpr hlarge)

theorem exists_mul?_of_drops (hb : b.IsPower j) (ha : 0 ≤ a.value)
    (hk : Drops (digits a b) (places a b) k) :
    ∃ c, a.mul? b = some c ∧ c.value = a.value * tenPow j := by
  have hnonneg := value_nonneg_of_negative_eq_false hb.negative
  have hle := hb.le_of_drops hk
  obtain ⟨c, hc, hvalue⟩ := value_mul?_of_drops ha hnonneg hk
  have hpower : (tenPow j : ℚ) = tenPow (j - k) * tenPow k := by
    exact_mod_cast (tenPow_sub_mul hle).symm
  have hplaces : (tenPow (places a b) : ℚ) = tenPow (places a b - k) * tenPow k := by
    exact_mod_cast (tenPow_sub_mul hk.le).symm
  refine ⟨c, hc, ?_⟩
  calc c.value = (a.magnitude : ℚ) * tenPow (j - k) / tenPow (places a b - k) := by
        rw [hvalue, hb.halfEven_digits a hle, Nat.cast_mul]
    _ = (a.magnitude : ℚ) * tenPow j / tenPow (places a b) := by
        rw [hpower, hplaces, ← mul_assoc, mul_div_mul_right _ _ (tenPow_pos' k).ne']
    _ = a.value * tenPow j := by
        rw [value_of_nonneg ha, hb.places_eq, mul_div_right_comm]

/-- A product that is not too large fits, without the zeros if need be. -/
theorem exists_drops_of_lt (hb : b.IsPower j) (ha : 0 ≤ a.value)
    (hlt : a.value * tenPow j < (1 <<< 96 : Nat)) : ∃ k, Drops (digits a b) (places a b) k := by
  have hplaces : places a b - 28 = 0 := by
    rw [hb.places_eq, Nat.sub_eq_zero_of_le a.scale_le]
  rcases Nat.le_total j (places a b) with hle | hle
  · refine exists_drops (Nat.le_trans (Nat.le_of_eq hplaces) (Nat.zero_le j)) hle ?_
    rw [hb.halfEven_digits a (Nat.le_refl j), Nat.sub_self, tenPow_zero, Nat.mul_one]
    exact a.magnitude_lt
  · -- with all places given up the product is a whole number
    refine exists_drops (Nat.sub_le _ 28) (Nat.le_refl _) ?_
    rw [hb.halfEven_digits a hle]
    have hpower : (tenPow j : ℚ) = tenPow (j - a.scale) * tenPow a.scale := by
      rw [hb.places_eq] at hle
      exact_mod_cast (tenPow_sub_mul hle).symm
    have hwhole : a.value * tenPow j = (a.magnitude * tenPow (j - places a b) : Nat) := by
      rw [value_of_nonneg ha, hpower, hb.places_eq, Nat.cast_mul, mul_comm (tenPow (j - _) : ℚ),
        ← mul_assoc, div_mul_cancel₀ _ (tenPow_pos' a.scale).ne']
    rw [hwhole] at hlt
    exact_mod_cast hlt

/-- A product with a power of ten is exact, or it is too large. -/
theorem mul?_cases (hb : b.IsPower j) (ha : 0 ≤ a.value) :
    (∃ c, a.mul? b = some c ∧ c.value = a.value * tenPow j) ∨
      a.mul? b = none ∧ (1 <<< 96 : Nat) ≤ a.value * tenPow j := by
  by_cases hdrops : ∃ k, Drops (digits a b) (places a b) k
  · obtain ⟨k, hk⟩ := hdrops
    exact .inl (hb.exists_mul?_of_drops ha hk)
  have hlarge : ((1 <<< 96 : Nat) : ℚ) ≤ a.value * tenPow j := by
    by_contra hlt
    exact hdrops (hb.exists_drops_of_lt ha (not_le.mp hlt))
  have hne : a.isZero = false := by
    refine Bool.eq_false_iff.mpr fun hzero ↦ ?_
    rw [value_of_isZero hzero, zero_mul] at hlarge
    exact absurd hlarge (by decide)
  have hne' : b.isZero = false := by
    rw [isZero, hb.magnitude, beq_eq_false_iff_ne]
    exact (tenPow_pos j).ne'
  have hfit : fit? (a.negative != b.negative) (digits a b) (places a b) = none := by
    rw [Option.eq_none_iff_forall_ne_some]
    exact fun c hc ↦ hdrops (exists_drops_of_fit? hc)
  have hnear : ¬ 47 < a.scale + b.scale := by
    have hscale := a.scale_le
    rw [hb.scale]
    omega
  rw [digits, places] at hfit
  refine .inr ⟨?_, hlarge⟩
  simp only [mul?, hne, hne', hfit, hnear, Bool.or_false, Bool.false_eq_true, if_false,
    Option.map_none, ite_self]

end IsPower

end Decimal

end Tokenomics
