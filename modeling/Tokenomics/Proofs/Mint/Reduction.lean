import Tokenomics.Proofs.Mint.Provisions

/-!
# How exact a reduction is

A reduction multiplies the provisions by the factor and cuts the product to 18 places. The product
has been made to fit before it is cut, by rounding half to even, and with the four places of a usual
factor that takes no more than provisions of eight digits before the point and 18 behind it.
`applyReduction_truncates_iff` says that the result is nevertheless the exact product, cut to 18
places, unless the rounding disturbs the places that stay; `reduction_above_product` is a reduction
of valid provisions where it does, so that they come out above the exact product. What `Provisions`
says is not touched by that: they never come out above what they were.
-/

namespace Tokenomics

variable {height : UInt64} {p : Params} {s : EmissionState} {v w : Decimal}

/-- Reduced provisions as they are promised: the exact product with the factor, without its digits
from place 19 on, so that nothing is rounded up. -/
structure CutProduct (v factor w : Decimal) : Prop where
  value_eq : w.value = cut provisionsPlaces (v.value * factor.value)
  le : w.value ≤ v.value * factor.value

theorem cutProduct_iff {factor : Decimal} (hv : 0 ≤ v.value) (hfactor : 0 ≤ factor.value) :
    CutProduct v factor w ↔ w.value = cut provisionsPlaces (v.value * factor.value) := by
  refine ⟨CutProduct.value_eq, fun h ↦ ⟨h, ?_⟩⟩
  rw [h]
  exact cut_le (mul_nonneg hv hfactor)

/-- **A reduction that is due truncates the exact product**, unless making the product fit disturbs
its first 18 places. There is a result in either case. -/
theorem applyReduction_truncates_iff (hfactor : p.reductionFactor.value ∈ Set.Icc (0 : ℚ) 1)
    (hv : 0 ≤ s.provisions.value) (hstarted : s.lastReduction ≠ 0)
    (hdue : ¬ Word.sub height s.lastReduction < p.reductionPeriod) : ∃ w,
      applyReduction height p s
        = .ok ({ s with provisions := w, lastReduction := height }, true) ∧
      (CutProduct s.provisions p.reductionFactor w ↔
        ¬ s.provisions.Disturbed provisionsPlaces p.reductionFactor) := by
  obtain ⟨c, hc, hcut⟩ :=
    Decimal.exists_truncateTo_mul? provisionsPlaces hv hfactor.1 hfactor.2
  have hmul : s.provisions.mul p.reductionFactor = .ok c := by
    rw [Decimal.mul, hc]
  have hreduced : reducedProvisions p s.provisions = .ok (c.truncateTo provisionsPlaces) := by
    rw [reducedProvisions, hmul]
    rfl
  refine ⟨c.truncateTo provisionsPlaces, ?_, (cutProduct_iff hv hfactor.1).trans hcut⟩
  exact applyReduction_eq_ok.mpr (.inr (.inr ⟨hstarted, hdue, _, hreduced, rfl, rfl⟩))

/-- Standard parameters, with a reduction after a hundred blocks. -/
def everyHundredBlocks : Params := { Params.standard with reductionPeriod := 100 }

/-- Twelve million and `n` of the smallest units that provisions have, and the count of blocks
started at height 1. -/
def twelveMillion (n : Nat) (h : 12000000 * tenPow 18 + n < 1 <<< 96 := by decide) :
    EmissionState :=
  ⟨⟨false, 12000000 * tenPow 18 + n, 18, h, by decide⟩, 1, .standard⟩

/-- The exact product is 7999200.0000000000000000013332. It does not fit with its last digit, and
giving that up does not reach up to place 18. -/
theorem applyReduction_truncates_iff_rounded :
    everyHundredBlocks.reductionFactor.value ∈ Set.Icc (0 : ℚ) 1 ∧
    0 ≤ (twelveMillion 2).provisions.value ∧ (twelveMillion 2).lastReduction ≠ 0 ∧
    ¬ Word.sub 101 (twelveMillion 2).lastReduction < everyHundredBlocks.reductionPeriod ∧ ∃ w,
      applyReduction 101 everyHundredBlocks (twelveMillion 2)
        = .ok ({ twelveMillion 2 with provisions := w, lastReduction := 101 }, true) ∧
      CutProduct (twelveMillion 2).provisions everyHundredBlocks.reductionFactor w := by
  have hvalid : everyHundredBlocks.validate = .ok () := by decide +kernel
  have hfactor := factor_mem_Icc hvalid
  have hv : 0 ≤ (twelveMillion 2).provisions.value :=
    Decimal.value_nonneg_of_negative_eq_false rfl
  have hstarted : (twelveMillion 2).lastReduction ≠ 0 := by decide
  have hdue :
      ¬ Word.sub 101 (twelveMillion 2).lastReduction < everyHundredBlocks.reductionPeriod := by
    decide
  obtain ⟨w, hw, htruncates⟩ := applyReduction_truncates_iff hfactor hv hstarted hdue
  refine ⟨hfactor, hv, hstarted, hdue, w, hw, htruncates.mpr ?_⟩
  have hdrops : Decimal.Drops
      (Decimal.digits (twelveMillion 2).provisions everyHundredBlocks.reductionFactor)
      (Decimal.places (twelveMillion 2).provisions everyHundredBlocks.reductionFactor) 1 := by
    refine ⟨by decide, by decide, by decide, fun j _ hj ↦ ?_⟩
    obtain rfl := Nat.lt_one_iff.mp hj
    decide
  rw [Decimal.disturbed_iff hdrops]
  decide

/-- One unit more, and the exact product 7999200.0000000000000000019998 is rounded up to
7999200.000000000000000002, which then needs no cut. -/
theorem reduction_above_product :
    Genesis.validate ⟨everyHundredBlocks, twelveMillion 3⟩ = .ok () ∧ ∃ w,
      applyReduction 101 everyHundredBlocks (twelveMillion 3)
        = .ok ({ twelveMillion 3 with provisions := w, lastReduction := 101 }, true) ∧
      (twelveMillion 3).provisions.value * everyHundredBlocks.reductionFactor.value < w.value ∧
      ¬ CutProduct (twelveMillion 3).provisions everyHundredBlocks.reductionFactor w := by
  refine ⟨by decide +kernel, _, rfl, ?_⟩
  refine (and_iff_left_of_imp fun habove hcut ↦ not_le_of_gt habove hcut.le).mpr ?_
  rw [Decimal.value_of_negative_eq_false rfl, Decimal.value_of_negative_eq_false rfl,
    Decimal.value_of_negative_eq_false rfl, div_mul_div_comm,
    div_lt_div_iff₀ (mul_pos (Decimal.tenPow_pos' _) (Decimal.tenPow_pos' _))
      (Decimal.tenPow_pos' _)]
  exact_mod_cast (show 12000000000000000000000003 * 6666 * tenPow 18
    < 7999200000000000000000002 * (tenPow 18 * tenPow 4) by decide)

end Tokenomics
