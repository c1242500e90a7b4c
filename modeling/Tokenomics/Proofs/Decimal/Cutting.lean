import Tokenomics.Proofs.Decimal.Product

/-!
# Products cut to some places

`cut N q` is `q` without its digits from place `N + 1` on, and `Decimal.truncateTo` cuts values
(`value_truncateTo_eq`). But a product has been rounded by the time it is cut: the last `k` places
of its digits are gone, `k` being what makes it fit. So what is left is the cut of the exact product
only if that rounding has not changed what stands before the digits that the cut drops.

`Disturbs n t k` says when it has. If the cut drops as many digits as the rounding or more, it can
only have raised the last place that stays by one. If it drops fewer, the rounding has itself given
up places that should have stayed, and they must have been zeros. With that condition the two
roundings are compared exactly (`exists_truncateTo_mul?`).
-/

namespace Tokenomics

variable {N n s t k : Nat}

/-! ## Cutting numbers -/

/-- A number that is not negative, without its digits from place `N + 1` on. -/
def cut (N : Nat) (q : ℚ) : ℚ := (⌊q * tenPow N⌋₊ : ℚ) / tenPow N

theorem cut_nonneg (N : Nat) (q : ℚ) : 0 ≤ cut N q :=
  div_nonneg (Nat.cast_nonneg _) (Nat.cast_nonneg _)

theorem cut_le {q : ℚ} (hq : 0 ≤ q) : cut N q ≤ q := by
  have hpos := Decimal.tenPow_pos' N
  rw [cut, div_le_iff₀ hpos]
  exact Nat.floor_le (mul_nonneg hq hpos.le)

/-- Of `s` places at most `N` stay, and the digits of the others are dropped. -/
theorem cut_div (N n s : Nat) :
    cut N ((n : ℚ) / tenPow s) = ((n / tenPow (s - N) : Nat) : ℚ) / tenPow (s - (s - N)) := by
  have hpos := (Decimal.tenPow_pos' N).ne'
  rcases Nat.le_total N s with hle | hle
  · have hsplit : (tenPow s : ℚ) = tenPow (s - N) * tenPow N := by
      exact_mod_cast (tenPow_sub_mul hle).symm
    have hscaled : (n : ℚ) / tenPow s * tenPow N = n / tenPow (s - N) := by
      rw [hsplit, ← div_div, div_mul_cancel₀ _ hpos]
    rw [cut, hscaled, Nat.floor_div_eq_div, Nat.sub_sub_self hle]
  · -- all places stay
    have hsplit : (tenPow N : ℚ) = tenPow (N - s) * tenPow s := by
      exact_mod_cast (tenPow_sub_mul hle).symm
    have hscaled : (n : ℚ) / tenPow s * tenPow N = ((n * tenPow (N - s) : Nat) : ℚ) := by
      have hpos' := (Decimal.tenPow_pos' s).ne'
      rw [hsplit, Nat.cast_mul]
      field_simp
    rw [cut, hscaled, Nat.floor_natCast, ← hscaled, mul_div_cancel_right₀ _ hpos,
      Nat.sub_eq_zero_of_le hle, tenPow_zero, Nat.div_one, Nat.sub_zero]

/-! ## Rounding before cutting -/

/-- Rounding the last `k` places of `n` away changes what stands before the last `t` of them: it
raises it by one, or it gives up digits of it that are not all zeros. -/
def Disturbs (n t k : Nat) : Prop :=
  k ≤ t ∧ Reaches n t k ∨ t < k ∧ n / tenPow t % tenPow (k - t) ≠ 0

instance (n t k : Nat) : Decidable (Disturbs n t k) :=
  inferInstanceAs (Decidable (_ ∧ _ ∨ _ ∧ _))

/-- Digits that are given up were zeros exactly when the rounded number still has them. -/
theorem halfEven_mul_eq_iff (ht : t < k) :
    halfEven n (tenPow k) * tenPow (k - t) = n / tenPow t ↔
      n / tenPow t % tenPow (k - t) = 0 := by
  constructor
  · intro h
    rw [← h, Nat.mul_mod_left]
  · intro h
    obtain ⟨q, hq⟩ := Nat.dvd_of_mod_eq_zero h
    have hsplit : n % tenPow t + tenPow k * q = n := by
      have hdiv := Nat.mod_add_div n (tenPow t)
      rwa [hq, ← Nat.mul_assoc, Nat.mul_comm (tenPow t), tenPow_sub_mul (Nat.le_of_lt ht)] at hdiv
    -- what is rounded away is less than a tenth of the last place that is kept
    have hrest : 2 * (n % tenPow t) < tenPow k := by
      have hlt := Nat.mod_lt n (tenPow_pos t)
      have hle : tenPow (t + 1) ≤ tenPow k := tenPow_le_tenPow ht
      rw [tenPow_succ] at hle
      omega
    obtain ⟨hquotient, hremainder⟩ : n / tenPow k = q ∧ n % tenPow k = n % tenPow t :=
      (Nat.div_mod_unique (tenPow_pos k)).mpr ⟨hsplit, by omega⟩
    have hrounded : halfEven n (tenPow k) = q := by
      simp only [halfEven, hquotient, hremainder, hrest, if_true]
    rw [hrounded, hq, Nat.mul_comm]

/-- Rounding leaves what stands before the last `t` places, or disturbs it. -/
theorem halfEven_mul_div_eq_iff (n t k : Nat) :
    halfEven n (tenPow k) * tenPow k / tenPow t = n / tenPow t ↔ ¬ Disturbs n t k := by
  rcases Nat.lt_or_ge t k with hlt | hle
  · have hkept : halfEven n (tenPow k) * tenPow k / tenPow t
        = halfEven n (tenPow k) * tenPow (k - t) := by
      rw [← tenPow_sub_mul (Nat.le_of_lt hlt), ← Nat.mul_assoc,
        Nat.mul_div_cancel _ (tenPow_pos t)]
    rw [hkept, halfEven_mul_eq_iff hlt, Disturbs]
    simp [hlt, Nat.not_le.mpr hlt]
  · have hkept : halfEven n (tenPow k) * tenPow k / tenPow t
        = halfEven n (tenPow k) / tenPow (t - k) := by
      rw [← tenPow_sub_mul hle, Nat.mul_div_mul_right _ _ (tenPow_pos k)]
    have hdisturbs : Disturbs n t k ↔ Reaches n t k := by
      simp [Disturbs, hle, Nat.not_lt.mpr hle]
    rw [hkept, hdisturbs]
    rcases halfEven_div_eq hle with ⟨heq, hreaches⟩ | ⟨heq, hreaches⟩
    · exact iff_of_true heq hreaches
    · exact iff_of_false (by omega) (not_not_intro hreaches)

/-! ## Cutting decimals -/

namespace Decimal

variable {a b c : Decimal}

/-- Making a product fit disturbs what a cut to `N` places leaves of it. -/
def Disturbed (N : Nat) (a b : Decimal) : Prop :=
  ∃ k, Drops (digits a b) (places a b) k ∧ Disturbs (digits a b) (places a b - N) k

theorem disturbed_iff (hk : Drops (digits a b) (places a b) k) :
    Disturbed N a b ↔ Disturbs (digits a b) (places a b - N) k := by
  constructor
  · rintro ⟨j, hj, h⟩
    rwa [hj.unique hk] at h
  · exact fun h ↦ ⟨k, hk, h⟩

theorem value_truncateTo_eq (N : Nat) (hc : 0 ≤ c.value) :
    (c.truncateTo N).value = cut N c.value := by
  rw [value_of_nonneg hc, cut_div, truncateTo]
  split
  · rename_i hle
    rw [Nat.sub_eq_zero_of_le hle, tenPow_zero, Nat.div_one, Nat.sub_zero, value_of_nonneg hc]
  rename_i hlt
  have hplaces : c.scale - (c.scale - N) = N := Nat.sub_sub_self (Nat.le_of_not_le hlt)
  split
  · rename_i hzero
    have hmagnitude : c.magnitude = 0 := beq_iff_eq.mp hzero
    rw [value_of_isZero rfl, hmagnitude, Nat.zero_div, Nat.cast_zero, zero_div]
  · rename_i hne
    have hsign := negative_of_nonneg hc (Bool.eq_false_iff.mpr hne)
    rw [hplaces]
    refine value_of_negative_eq_false ?_
    rw [withDigits, hsign, Bool.false_and]

/-- A factor between zero and one has a product with every decimal that is not negative. Cut to `N`
places it is what the exact product is when cut, unless making it fit has disturbed these. -/
theorem exists_truncateTo_mul? (N : Nat) (ha : 0 ≤ a.value) (hb : 0 ≤ b.value)
    (hone : b.value ≤ 1) : ∃ c, a.mul? b = some c ∧
      ((c.truncateTo N).value = cut N (a.value * b.value) ↔ ¬ Disturbed N a b) := by
  obtain ⟨k, -, hk⟩ := exists_drops_digits (a := a) hb hone
  obtain ⟨c, hc, hvalue⟩ := value_mul?_of_drops ha hb hk
  -- with zeros for the places that were given up, what is kept has the places of the exact product
  have hrounded : c.value = ((halfEven (digits a b) (tenPow k) * tenPow k : Nat) : ℚ)
      / tenPow (places a b) := by
    have hsplit : (tenPow (places a b) : ℚ) = tenPow (places a b - k) * tenPow k := by
      exact_mod_cast (tenPow_sub_mul hk.le).symm
    rw [hvalue, hsplit, Nat.cast_mul, mul_div_mul_right _ _ (tenPow_pos' k).ne']
  have hnonneg : 0 ≤ c.value := by
    rw [hrounded]
    exact div_nonneg (Nat.cast_nonneg _) (Nat.cast_nonneg _)
  refine ⟨c, hc, ?_⟩
  rw [value_truncateTo_eq N hnonneg, hrounded, value_mul_value ha hb, cut_div, cut_div,
    disturbed_iff hk, ← halfEven_mul_div_eq_iff, div_left_inj' (tenPow_pos' _).ne', Nat.cast_inj]

end Decimal

end Tokenomics
