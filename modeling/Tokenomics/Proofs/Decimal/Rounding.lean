import Mathlib.Data.Nat.Find
import Tokenomics.Decimal.Arithmetic
import Tokenomics.Proofs.Powers

/-!
# How products are rounded

Rounding half to even is monotone where it matters here: it never passes a multiple of the divisor
that the number has not passed (`halfEven_le`, `le_halfEven`), and it reaches the next one exactly
from the half on, from the half itself when that one is even (`le_halfEven_iff`). So when the last
`k` places of a number are rounded away, and then its last `t` places are cut off, there is left
what stood before those `t` places or one more (`halfEven_div_eq`).

A decimal that does not fit gives up as few of its last places as possible. `Drops n s k` says that
`k` places of `n / 10 ^ s` are given up; there is at most one such `k` (`Drops.unique`), and there
is one as soon as the number fits without any places (`exists_drops`).
-/

namespace Tokenomics

/-! ## Rounding half to even -/

/-- The quotient, or one more. -/
theorem halfEven_eq (n d : Nat) : halfEven n d = n / d ∨ halfEven n d = n / d + 1 := by
  have hparity := Nat.mod_two_eq_zero_or_one (n / d)
  simp only [halfEven]
  split
  · exact .inl rfl
  · split
    · exact .inr rfl
    · omega

theorem halfEven_one (n : Nat) : halfEven n 1 = n := by
  simp [halfEven, Nat.mod_one]

/-- Rounding does not pass a multiple of the divisor from below. -/
theorem halfEven_le {n d q : Nat} (hd : 0 < d) (h : n ≤ q * d) : halfEven n d ≤ q := by
  rcases Nat.lt_or_ge (n / d) q with hlt | hge
  · rcases halfEven_eq n d with heq | heq
    · rw [heq]
      exact Nat.le_of_lt hlt
    · rw [heq]
      exact hlt
  · -- the number is the multiple itself
    have hquot : n / d = q := Nat.le_antisymm (Nat.div_le_of_le_mul (Nat.mul_comm q d ▸ h)) hge
    have hrem : n % d = 0 := by
      have hsplit := Nat.div_add_mod n d
      rw [hquot, Nat.mul_comm] at hsplit
      omega
    simp only [halfEven, hrem, hquot, Nat.mul_zero, hd, if_true]
    exact Nat.le_refl q

theorem le_halfEven {n d q : Nat} (hd : 0 < d) (h : q * d ≤ n) : q ≤ halfEven n d := by
  have hquot : q ≤ n / d := (Nat.le_div_iff_mul_le hd).mpr h
  rcases halfEven_eq n d with heq | heq
  · rw [heq]
    exact hquot
  · rw [heq]
    exact Nat.le_succ_of_le hquot

/-- Rounding reaches a multiple of the divisor from below when at most half a divisor is missing,
and at the half only an even multiple. -/
theorem le_halfEven_iff {n d q : Nat} (hd : 0 < d) (h : n ≤ q * d) :
    q ≤ halfEven n d ↔ 2 * (q * d - n) < d ∨ 2 * (q * d - n) = d ∧ q % 2 = 0 := by
  have hsplit := Nat.div_add_mod n d
  have hrem := Nat.mod_lt n hd
  rw [Nat.mul_comm] at hsplit
  rcases Nat.lt_trichotomy q (n / d + 1) with hlow | rfl | hhigh
  · -- the number is the multiple itself
    have hle : q * d ≤ n / d * d := Nat.mul_le_mul_right d (Nat.le_of_lt_succ hlow)
    have hzero : q * d - n = 0 := by omega
    refine iff_of_true ?_ (.inl (by rw [hzero]; omega))
    exact le_halfEven hd (by omega)
  · have hmissing : (n / d + 1) * d - n = d - n % d := by
      rw [Nat.add_mul, Nat.one_mul]
      omega
    have hparity := Nat.mod_two_eq_zero_or_one (n / d)
    rw [hmissing]
    simp only [halfEven]
    split
    · omega
    · split
      · omega
      · omega
  · -- more than a whole divisor is missing
    have hle : (n / d + 2) * d ≤ q * d := Nat.mul_le_mul_right d hhigh
    rw [Nat.add_mul] at hle
    refine iff_of_false ?_ ?_
    · rcases halfEven_eq n d with heq | heq
      · omega
      · omega
    · omega

/-! ## Rounding before cutting -/

theorem tenPow_mod_two {k : Nat} (hk : 0 < k) : tenPow k % 2 = 0 := by
  obtain ⟨j, rfl⟩ := Nat.exists_eq_add_of_le' hk
  rw [tenPow_succ]
  omega

/-- Rounding the last `k` places of `n` away reaches the next multiple of the `t`-th power of ten:
half a place or less is missing, and if it is the half, that multiple is even in places. -/
def Reaches (n t k : Nat) : Prop :=
  2 * ((n / tenPow t + 1) * tenPow t - n) < tenPow k ∨
    2 * ((n / tenPow t + 1) * tenPow t - n) = tenPow k ∧ (k < t ∨ n / tenPow t % 2 = 1)

instance (n t k : Nat) : Decidable (Reaches n t k) := inferInstanceAs (Decidable (_ ∨ _ ∧ _))

/-- What stands before the last `t` places is left by rounding `k` of them away, or raised by
one. -/
theorem halfEven_div_eq {n t k : Nat} (hk : k ≤ t) :
    halfEven n (tenPow k) / tenPow (t - k) = n / tenPow t ∧ ¬ Reaches n t k ∨
      halfEven n (tenPow k) / tenPow (t - k) = n / tenPow t + 1 ∧ Reaches n t k := by
  have hpos := tenPow_pos k
  have hscaled (q : Nat) : q * tenPow (t - k) * tenPow k = q * tenPow t := by
    rw [Nat.mul_assoc, tenPow_sub_mul hk]
  -- multiples of the larger power are multiples of the smaller one, so rounding does not pass them
  have hlow : n / tenPow t ≤ halfEven n (tenPow k) / tenPow (t - k) := by
    rw [Nat.le_div_iff_mul_le (tenPow_pos _)]
    exact le_halfEven hpos (Nat.le_trans (Nat.le_of_eq (hscaled _)) (Nat.div_mul_le_self _ _))
  have hnext : n ≤ (n / tenPow t + 1) * tenPow (t - k) * tenPow k := by
    rw [hscaled]
    exact Nat.le_of_lt (Nat.lt_mul_of_div_lt (Nat.lt_succ_self _) (tenPow_pos _))
  have hhigh : halfEven n (tenPow k) / tenPow (t - k) ≤ n / tenPow t + 1 :=
    Nat.div_le_of_le_mul (Nat.le_trans (halfEven_le hpos hnext) (Nat.le_of_eq (Nat.mul_comm _ _)))
  -- in the places that are kept the next multiple is even, unless no place before `t` is kept
  have heven : (n / tenPow t + 1) * tenPow (t - k) % 2 = 0 ↔ k < t ∨ n / tenPow t % 2 = 1 := by
    rcases Nat.eq_or_lt_of_le hk with heq | hlt
    · rw [heq, Nat.sub_self, tenPow_zero]
      omega
    · rw [Nat.mul_mod, tenPow_mod_two (Nat.sub_pos_of_lt hlt)]
      exact iff_of_true (Nat.zero_mod 2) (.inl hlt)
  have hreaches : Reaches n t k ↔
      n / tenPow t + 1 ≤ halfEven n (tenPow k) / tenPow (t - k) := by
    rw [Nat.le_div_iff_mul_le (tenPow_pos _), le_halfEven_iff hpos hnext, hscaled, heven, Reaches]
  by_cases h : Reaches n t k
  · exact .inr ⟨Nat.le_antisymm hhigh (hreaches.mp h), h⟩
  · refine .inl ⟨Nat.le_antisymm (Nat.le_of_not_lt ?_) hlow, h⟩
    exact fun hlt ↦ h (hreaches.mpr hlt)

/-! ## Giving up places -/

namespace Decimal

/-- Of the places of `n / 10 ^ s`, `k` have to be given up: rounded away they leave a decimal, and
no fewer do. -/
structure Drops (n s k : Nat) : Prop where
  places : s - 28 ≤ k
  le : k ≤ s
  fits : halfEven n (tenPow k) < 1 <<< 96
  least : ∀ j, s - 28 ≤ j → j < k → 1 <<< 96 ≤ halfEven n (tenPow j)

theorem Drops.unique {n s j k : Nat} (hj : Drops n s j) (hk : Drops n s k) : j = k := by
  rcases Nat.lt_trichotomy j k with hlt | heq | hgt
  · exact absurd hj.fits (Nat.not_lt.mpr (hk.least j hj.places hlt))
  · exact heq
  · exact absurd hk.fits (Nat.not_lt.mpr (hj.least k hk.places hgt))

/-- What fits at all fits with as many places as possible. -/
theorem exists_drops {n s k : Nat} (hplaces : s - 28 ≤ k) (hle : k ≤ s)
    (hfits : halfEven n (tenPow k) < 1 <<< 96) : ∃ j, Drops n s j := by
  have hexists : ∃ j, s - 28 ≤ j ∧ halfEven n (tenPow j) < 1 <<< 96 := ⟨k, hplaces, hfits⟩
  obtain ⟨hplaces', hfits'⟩ := Nat.find_spec hexists
  have hle' : Nat.find hexists ≤ s :=
    Nat.le_trans (Nat.find_min' hexists ⟨hplaces, hfits⟩) hle
  refine ⟨Nat.find hexists, hplaces', hle', hfits', fun j hj hlt ↦ ?_⟩
  exact Nat.not_lt.mp fun hjfits ↦ Nat.find_min hexists hlt ⟨hj, hjfits⟩

theorem findSome?_range' {α : Type} {f : Nat → Option α} {a n k : Nat} {b : α} (hak : a ≤ k)
    (hk : k < a + n) (hnone : ∀ j, a ≤ j → j < k → f j = none) (hsome : f k = some b) :
    (List.range' a n).findSome? f = some b := by
  induction n generalizing a with
  | zero => exact absurd hk (Nat.not_lt.mpr hak)
  | succ n ih =>
    rw [List.range'_succ, List.findSome?_cons]
    rcases Nat.eq_or_lt_of_le hak with rfl | hlt
    · rw [hsome]
    · rw [hnone a (Nat.le_refl a) hlt]
      exact ih hlt (by omega) fun j hj ↦ hnone j (Nat.le_of_succ_le hj)

/-- A decimal that fits at all keeps all places but those it has to give up. -/
theorem fit?_of_drops {n s k : Nat} (h : Drops n s k) (negative : Bool) :
    ∃ c, fit? negative n s = some c ∧ c.negative = negative ∧
      c.magnitude = halfEven n (tenPow k) ∧ c.scale = s - k := by
  have hscale : ∀ j, s - 28 ≤ j → s - j ≤ 28 := by
    intro j hj
    omega
  refine ⟨⟨negative, halfEven n (tenPow k), s - k, h.fits, hscale k h.places⟩, ?_, rfl, rfl, rfl⟩
  have hle := h.le
  refine findSome?_range' h.places (by omega) (fun j hj hlt ↦ ?_) ?_
  · rw [dropPlaces?, ofParts?, dif_neg]
    exact fun hfits ↦ absurd hfits.1 (Nat.not_lt.mpr (h.least j hj hlt))
  · exact dif_pos ⟨h.fits, hscale k h.places⟩

theorem exists_drops_of_fit? {negative : Bool} {n s : Nat} {c : Decimal}
    (h : fit? negative n s = some c) : ∃ k, Drops n s k := by
  obtain ⟨k, hk, hdrop⟩ := List.exists_of_findSome?_eq_some h
  have hrange := List.mem_range'_1.mp hk
  rw [dropPlaces?, ofParts?] at hdrop
  split at hdrop
  · rename_i hfits
    exact exists_drops hrange.1 (by omega) hfits.1
  · exact nomatch hdrop

/-- A decimal with few enough places and digits keeps them all. -/
theorem drops_zero {n s : Nat} (hn : n < 1 <<< 96) (hs : s ≤ 28) : Drops n s 0 where
  places := by omega
  le := Nat.zero_le s
  fits := by rwa [tenPow_zero, halfEven_one]
  least j _ hj := absurd hj (Nat.not_lt_zero j)

end Decimal

end Tokenomics
