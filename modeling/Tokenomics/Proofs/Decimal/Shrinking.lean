import Tokenomics.Proofs.Decimal.Cutting

/-!
# Products that do not grow

A factor between zero and one does not make a decimal larger, although the product is rounded
(`exists_mul?_le`). Rounding could only lift the product above the decimal if the decimal were no
multiple of the last place that is kept. But the product never gives up more places than the
factor has (`exists_drops_digits`), so it keeps at least the places of the decimal. Cutting places
afterwards does not make it larger either (`value_truncateTo`).
-/

namespace Tokenomics.Decimal

variable {a b c : Decimal} {k : Nat}

/-! ## The rounded product -/

/-- Digits that are at most the decimal's stand for a value that is. -/
theorem value_le_of_magnitude_le (ha : 0 ≤ a.value) (hk : k ≤ b.scale)
    (hnegative : c.negative = false) (hmagnitude : c.magnitude ≤ a.magnitude * tenPow (b.scale - k))
    (hscale : c.scale = places a b - k) : c.value ≤ a.value := by
  have hsplit : tenPow c.scale = tenPow (b.scale - k) * tenPow a.scale := by
    rw [hscale, ← tenPow_add, places]
    congr 1
    omega
  rw [value_of_negative_eq_false hnegative, value_of_nonneg ha,
    div_le_div_iff₀ (tenPow_pos' c.scale) (tenPow_pos' a.scale)]
  have hscaled : c.magnitude * tenPow a.scale ≤ a.magnitude * tenPow c.scale := by
    rw [hsplit, ← Nat.mul_assoc]
    exact Nat.mul_le_mul_right _ hmagnitude
  exact_mod_cast hscaled

/-- A factor between zero and one has a product with every decimal. The product with a decimal that
is not negative is not negative, and not larger. -/
theorem exists_mul?_le (a : Decimal) (hb : 0 ≤ b.value) (hone : b.value ≤ 1) :
    ∃ c, a.mul? b = some c ∧ (0 ≤ a.value → 0 ≤ c.value ∧ c.value ≤ a.value) := by
  have hzero (ha : 0 ≤ a.value) : 0 ≤ zero.value ∧ zero.value ≤ a.value :=
    ⟨value_zero.ge, value_zero.trans_le ha⟩
  obtain ⟨k, hk, hdrops⟩ := exists_drops_digits (a := a) hb hone
  obtain ⟨c, hc, hnegative, hdigits, hscale⟩ := fit?_of_drops hdrops (a.negative != b.negative)
  rw [mul?]
  split
  · exact ⟨zero, rfl, hzero⟩
  rename_i hfactor
  obtain ⟨hne, hne'⟩ := Bool.or_eq_false_iff.mp (Bool.eq_false_iff.mpr hfactor)
  have hbounds (ha : 0 ≤ a.value) : 0 ≤ c.value ∧ c.value ≤ a.value := by
    rw [negative_of_nonneg ha hne, negative_of_nonneg hb hne'] at hnegative
    refine ⟨value_nonneg_of_negative_eq_false hnegative, ?_⟩
    refine value_le_of_magnitude_le ha hk hnegative ?_ hscale
    rw [hdigits]
    exact halfEven_digits_le hb hone hk
  split
  · split
    · exact ⟨zero, rfl, hzero⟩
    · refine ⟨c.unsignedZero, congrArg (Option.map unsignedZero) hc, ?_⟩
      rw [value_unsignedZero]
      exact hbounds
  · exact ⟨c, hc, hbounds⟩

/-! ## Cutting places -/

theorem scale_truncateTo_le (n : Nat) (a : Decimal) : (a.truncateTo n).scale ≤ n := by
  rw [truncateTo]
  split
  · assumption
  · split
    · exact Nat.le_refl n
    · exact Nat.le_refl n

theorem value_truncateTo (n : Nat) (ha : 0 ≤ a.value) :
    0 ≤ (a.truncateTo n).value ∧ (a.truncateTo n).value ≤ a.value := by
  rw [value_truncateTo_eq n ha]
  exact ⟨cut_nonneg n a.value, cut_le ha⟩

theorem fractionDigits_le_scale (a : Decimal) : a.fractionDigits ≤ a.scale :=
  stripZeros_scale_le a.magnitude a.scale

end Tokenomics.Decimal
