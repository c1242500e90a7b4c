import Mathlib.Algebra.Order.Floor.Semifield
import Tokenomics.Proofs.Decimal.Value

/-!
# The whole part of a product

A product of decimals that are not negative has, as an exact number, the digits `digits a b` with
`places a b` of them behind the point. What is kept of it is rounded half to even, and the whole
part is only taken afterwards. So the whole part is that of the exact product
(`floor_value_mul_value`), unless the rounding reaches the next whole number: then it is one more
(`exists_mul?`). `Lifts a b` says exactly when that happens, and a product that fits with all its
places is never lifted (`not_lifts_of_fits`).
-/

namespace Tokenomics

theorem halfEven_eq_zero {n d : Nat} (h : 2 * n < d) : halfEven n d = 0 := by
  have hlt : n < d := by omega
  simp only [halfEven, Nat.mod_eq_of_lt hlt, Nat.div_eq_of_lt hlt, h, if_true]

namespace Decimal

variable {a b c : Decimal} {k : Nat}

/-- The digits of the exact product. -/
def digits (a b : Decimal) : Nat := a.magnitude * b.magnitude

/-- How many digits of the exact product stand behind the point. -/
def places (a b : Decimal) : Nat := a.scale + b.scale

/-- The whole part of the exact product. -/
def wholePart (a b : Decimal) : Nat := digits a b / tenPow (places a b)

/-- How far the digits of the exact product are from the next whole number. -/
def shortfall (a b : Decimal) : Nat := (wholePart a b + 1) * tenPow (places a b) - digits a b

/-- Rounding the product reaches the next whole number: the exact product is less than half a last
place below it, or exactly half a last place and the whole number is the even one of the two. -/
def Lifts (a b : Decimal) : Prop :=
  ∃ k, Drops (digits a b) (places a b) k ∧ (2 * shortfall a b < tenPow k ∨
    2 * shortfall a b = tenPow k ∧ (k < places a b ∨ wholePart a b % 2 = 1))

/-! ## The exact product -/

theorem value_mul_value (ha : 0 ≤ a.value) (hb : 0 ≤ b.value) :
    a.value * b.value = (digits a b : ℚ) / tenPow (places a b) := by
  rw [value_of_nonneg ha, value_of_nonneg hb, div_mul_div_comm, digits, places, tenPow_add]
  push_cast
  rfl

/-- The whole part of the exact product. -/
theorem floor_value_mul_value (ha : 0 ≤ a.value) (hb : 0 ≤ b.value) :
    ⌊a.value * b.value⌋₊ = wholePart a b := by
  rw [value_mul_value ha hb, Nat.floor_div_eq_div, wholePart]

theorem digits_lt (a b : Decimal) :
    digits a b < (wholePart a b + 1) * tenPow (places a b) :=
  Nat.lt_mul_of_div_lt (Nat.lt_succ_self _) (tenPow_pos _)

/-! ## A factor of at most one -/

theorem magnitude_le_tenPow (hb : 0 ≤ b.value) (hone : b.value ≤ 1) :
    b.magnitude ≤ tenPow b.scale := by
  rw [value_of_nonneg hb, div_le_one (tenPow_pos' b.scale)] at hone
  exact_mod_cast hone

/-- What is kept of the product is at most the decimal, written with as many places. -/
theorem halfEven_digits_le (hb : 0 ≤ b.value) (hone : b.value ≤ 1) (hk : k ≤ b.scale) :
    halfEven (digits a b) (tenPow k) ≤ a.magnitude * tenPow (b.scale - k) := by
  refine halfEven_le (tenPow_pos k) ?_
  rw [Nat.mul_assoc, tenPow_sub_mul hk]
  exact Nat.mul_le_mul_left _ (magnitude_le_tenPow hb hone)

/-- The product gives up no more places than the factor has: without those it fits. -/
theorem exists_drops_digits (hb : 0 ≤ b.value) (hone : b.value ≤ 1) :
    ∃ k ≤ b.scale, Drops (digits a b) (places a b) k := by
  have hrounded := halfEven_digits_le (a := a) hb hone (Nat.le_refl b.scale)
  rw [Nat.sub_self, tenPow_zero, Nat.mul_one] at hrounded
  have hfits : halfEven (digits a b) (tenPow b.scale) < 1 <<< 96 :=
    Nat.lt_of_le_of_lt hrounded a.magnitude_lt
  have hplaces : places a b - 28 ≤ b.scale := by
    have hscale := a.scale_le
    rw [places]
    omega
  obtain ⟨k, hk⟩ := exists_drops hplaces (Nat.le_add_left _ _) hfits
  refine ⟨k, ?_, hk⟩
  by_contra hlt
  exact absurd hfits (Nat.not_lt.mpr (hk.least b.scale hplaces (Nat.lt_of_not_le hlt)))

/-! ## The rounded product -/

/-- What is kept of a product of decimals that are not negative, places behind place 47 of short
factors not being kept at all. -/
theorem value_mul?_of_drops (ha : 0 ≤ a.value) (hb : 0 ≤ b.value)
    (hk : Drops (digits a b) (places a b) k) : ∃ c, a.mul? b = some c ∧
      c.value = (halfEven (digits a b) (tenPow k) : ℚ) / tenPow (places a b - k) := by
  have hzero (h : 2 * digits a b < tenPow k) :
      zero.value = (halfEven (digits a b) (tenPow k) : ℚ) / tenPow (places a b - k) := by
    rw [halfEven_eq_zero h, value_zero, Nat.cast_zero, zero_div]
  rw [mul?]
  split
  · -- a factor is zero
    rename_i hfactor
    refine ⟨zero, rfl, hzero ?_⟩
    have hdigits : digits a b = 0 := by
      rw [digits, Nat.mul_eq_zero]
      rcases Bool.or_eq_true_iff.mp hfactor with h | h
      · exact .inl (beq_iff_eq.mp h)
      · exact .inr (beq_iff_eq.mp h)
    rw [hdigits]
    exact tenPow_pos k
  · rename_i hfactor
    obtain ⟨hne, hne'⟩ := Bool.or_eq_false_iff.mp (Bool.eq_false_iff.mpr hfactor)
    obtain ⟨c, hc, hnegative, hmagnitude, hscale⟩ := fit?_of_drops hk (a.negative != b.negative)
    rw [negative_of_nonneg ha hne, negative_of_nonneg hb hne'] at hc hnegative
    rw [negative_of_nonneg ha hne, negative_of_nonneg hb hne']
    have hvalue := value_of_negative_eq_false hnegative
    rw [hmagnitude, hscale] at hvalue
    split
    · rename_i hshort
      split
      · -- the digits of short factors are too few to reach up to place 28
        rename_i hfar
        refine ⟨zero, rfl, hzero ?_⟩
        obtain ⟨hlt, hlt'⟩ := Bool.and_eq_true_iff.mp hshort
        have hdigits : digits a b < (1 <<< 32) * (1 <<< 32) :=
          Nat.mul_lt_mul'' (of_decide_eq_true hlt) (of_decide_eq_true hlt')
        have hfar' : 20 ≤ k := Nat.le_trans (Nat.le_sub_of_add_le hfar) hk.places
        calc 2 * digits a b < 2 * ((1 <<< 32) * (1 <<< 32)) := by omega
          _ ≤ tenPow 20 := by decide
          _ ≤ tenPow k := tenPow_le_tenPow hfar'
      · exact ⟨c.unsignedZero, congrArg (Option.map unsignedZero) hc,
          (value_unsignedZero c).trans hvalue⟩
    · exact ⟨c, hc, hvalue⟩

theorem floor?_of_nonneg (h : 0 ≤ c.value) : c.floor? = some ⌊c.value⌋₊ := by
  have hcoefficient : ¬ c.coefficient < 0 := by
    rw [coefficient_of_nonneg h]
    omega
  rw [floor?, if_neg hcoefficient, value_of_nonneg h, Nat.floor_div_eq_div]

/-- Rounding leaves the whole part, or reaches the next whole number; which of the two depends on
how far that number is, and on a tie on whether it is even in last places. -/
theorem rounded_div_eq (hk : Drops (digits a b) (places a b) k) :
    halfEven (digits a b) (tenPow k) / tenPow (places a b - k) = wholePart a b ∧ ¬ Lifts a b ∨
      halfEven (digits a b) (tenPow k) / tenPow (places a b - k) = wholePart a b + 1 ∧
        Lifts a b := by
  have hlifts : Lifts a b ↔ Reaches (digits a b) (places a b) k := by
    constructor
    · rintro ⟨j, hj, h⟩
      rwa [hj.unique hk] at h
    · exact fun h ↦ ⟨k, hk, h⟩
  rw [hlifts]
  exact halfEven_div_eq hk.le

/-- A factor that is at most one has a product with every decimal, and its whole part is that of
the exact product unless the product is lifted: then it is one more. -/
theorem exists_mul? (ha : 0 ≤ a.value) (hb : 0 ≤ b.value) (hone : b.value ≤ 1) :
    ∃ c n, a.mul? b = some c ∧ c.floor? = some n ∧
      (n = ⌊a.value * b.value⌋₊ ∧ ¬ Lifts a b ∨ n = ⌊a.value * b.value⌋₊ + 1 ∧ Lifts a b) := by
  obtain ⟨k, -, hk⟩ := exists_drops_digits (a := a) hb hone
  obtain ⟨c, hc, hvalue⟩ := value_mul?_of_drops ha hb hk
  have hnonneg : 0 ≤ c.value := by
    rw [hvalue]
    exact div_nonneg (Nat.cast_nonneg _) (tenPow_pos' _).le
  rw [floor_value_mul_value ha hb]
  refine ⟨c, _, hc, floor?_of_nonneg hnonneg, ?_⟩
  rw [hvalue, Nat.floor_div_eq_div]
  exact rounded_div_eq hk

/-- A product that fits with all its places is not lifted. -/
theorem not_lifts_of_fits (hdigits : digits a b < 1 <<< 96) (hplaces : places a b ≤ 28) :
    ¬ Lifts a b := by
  rintro ⟨k, hk, h⟩
  obtain rfl : k = 0 := hk.unique (drops_zero hdigits hplaces)
  have hpos : 0 < shortfall a b := Nat.sub_pos_of_lt (digits_lt a b)
  rw [tenPow_zero] at h
  omega

end Decimal

end Tokenomics
