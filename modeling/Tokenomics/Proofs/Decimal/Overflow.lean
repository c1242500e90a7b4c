import Tokenomics.Proofs.Decimal.Value

/-!
# Sums that leave the range of decimals

A sum of two decimals that are not negative has no result exactly when it comes to `limit`, half a
unit less than the first whole number that is too large (`add?_eq_none_iff`): from there on it is
rounded to that number, even if it gives up all of its places. A list is added up from the left,
with a rounding at every step, so what counts is the sum as it has been rounded so far
(`sum_eq_error_iff`). Each rounding adds half a unit at most. So a list whose exact sum stays as
much below the limit has a sum (`exists_sum`).
-/

namespace Tokenomics

/-! ## Rounding to a whole number -/

/-- Rounding reaches an even number from half a unit below it. -/
theorem le_halfEven_iff_of_even {n d q : Nat} (hd : 0 < d) (hq : q % 2 = 0) :
    q ≤ halfEven n d ↔ 2 * (q * d) ≤ 2 * n + d := by
  rcases Nat.le_total n (q * d) with hle | hge
  · rw [le_halfEven_iff hd hle]
    omega
  · exact iff_of_true (le_halfEven hd hge) (by omega)

/-- Rounding adds half a unit at most. -/
theorem halfEven_mul_le (n d : Nat) : 2 * (halfEven n d * d) ≤ 2 * n + d := by
  have hsplit := Nat.div_add_mod n d
  rw [Nat.mul_comm] at hsplit
  simp only [halfEven]
  split
  · omega
  · split
    · rw [Nat.add_mul, Nat.one_mul]
      omega
    · have hparity := Nat.mod_two_eq_zero_or_one (n / d)
      rcases hparity with heq | heq
      · rw [heq, Nat.add_zero]
        omega
      · rw [heq, Nat.add_mul, Nat.one_mul]
        omega

namespace Decimal

variable {a b c : Decimal} {l : List Decimal} {n s : Nat}

/-- What no sum may come to. -/
def limit : ℚ := ((1 <<< 96 : Nat) : ℚ) - 1 / 2

/-- A number comes to the limit when it is at most half a unit below the first whole number that is
too large. -/
theorem limit_le_div_iff (n s : Nat) :
    limit ≤ (n : ℚ) / tenPow s ↔ 2 * (1 <<< 96 * tenPow s) ≤ 2 * n + tenPow s := by
  have hscaled : limit ≤ (n : ℚ) / tenPow s ↔
      (2 : ℚ) * ((1 <<< 96 : Nat) * tenPow s) ≤ 2 * n + tenPow s := by
    rw [limit, le_div_iff₀ (tenPow_pos' s)]
    generalize ((1 <<< 96 : Nat) : ℚ) = bound
    constructor
    · intro h
      linarith
    · intro h
      linarith
  rw [hscaled]
  exact_mod_cast Iff.rfl

/-- A number fits as long as it does not round to a whole number that is too large. -/
theorem fit?_eq_none_iff (hs : s ≤ 28) (negative : Bool) :
    fit? negative n s = none ↔ limit ≤ (n : ℚ) / tenPow s := by
  have hwhole := le_halfEven_iff_of_even (n := n) (tenPow_pos s) (show 1 <<< 96 % 2 = 0 by decide)
  rw [limit_le_div_iff, ← hwhole]
  constructor
  · intro hnone
    by_contra hfits
    obtain ⟨k, hk⟩ := exists_drops (Nat.sub_le s 28) (Nat.le_refl s) (Nat.lt_of_not_le hfits)
    obtain ⟨c, hc, -⟩ := fit?_of_drops hk negative
    exact nomatch hnone.symm.trans hc
  · intro hlarge
    by_contra hsome
    obtain ⟨c, hc⟩ := Option.ne_none_iff_exists'.mp hsome
    obtain ⟨k, hk⟩ := exists_drops_of_fit? hc
    refine absurd hk.fits (Nat.not_lt.mpr ?_)
    rcases Nat.eq_or_lt_of_le hk.le with rfl | hlt
    · exact hlarge
    · -- with places left the number is large itself, before it is rounded
      refine le_halfEven (tenPow_pos k) ?_
      have hle : tenPow (k + 1) ≤ tenPow s := tenPow_le_tenPow hlt
      have hrounded := hwhole.mp hlarge
      rw [tenPow_succ] at hle
      omega

/-- A sum has no result when it comes to the limit. -/
theorem add?_eq_none_iff (ha : 0 ≤ a.value) (hb : 0 ≤ b.value) :
    a.add? b = none ↔ limit ≤ a.value + b.value := by
  have hsmall {d : Decimal} (hd : 0 ≤ d.value) : ¬ limit ≤ d.value := by
    have hmagnitude := d.magnitude_lt
    have hscale := tenPow_pos d.scale
    rw [value_of_nonneg hd, limit_le_div_iff]
    have hle : (d.magnitude + 1) * tenPow d.scale ≤ 1 <<< 96 * tenPow d.scale :=
      Nat.mul_le_mul_right _ hmagnitude
    have hone : d.magnitude * 1 ≤ d.magnitude * tenPow d.scale := Nat.mul_le_mul_left _ hscale
    rw [Nat.add_mul] at hle
    omega
  rcases add?_cases ha hb with ⟨hzero, hadd⟩ | ⟨hzero, hadd⟩ | ⟨n, s, hs, hadd, hexact⟩
  · rw [hadd, hzero, zero_add]
    exact iff_of_false (Option.some_ne_none b) (hsmall hb)
  · rw [hadd, hzero, add_zero]
    exact iff_of_false (Option.some_ne_none a) (hsmall ha)
  · rw [hadd, fit?_eq_none_iff hs, hexact]

/-- Rounding adds half a unit to a sum at most. -/
theorem value_add?_le (ha : 0 ≤ a.value) (hb : 0 ≤ b.value) (h : a.add? b = some c) :
    c.value ≤ a.value + b.value + 1 / 2 := by
  rcases add?_cases ha hb with ⟨hzero, hadd⟩ | ⟨hzero, hadd⟩ | ⟨n, s, -, hadd, hexact⟩
  · obtain rfl := Option.some.inj (hadd.symm.trans h)
    linarith
  · obtain rfl := Option.some.inj (hadd.symm.trans h)
    linarith
  rw [hadd] at h
  obtain ⟨k, hk⟩ := exists_drops_of_fit? h
  obtain ⟨c', hc', hnegative, hmagnitude, hscale⟩ := fit?_of_drops hk false
  obtain rfl : c' = c := Option.some.inj (hc'.symm.trans h)
  have hpos := tenPow_pos' (s - k)
  have hpos' := tenPow_pos' s
  -- a place that is given up is a unit at most
  have hrounded : 2 * (halfEven n (tenPow k) * tenPow k) ≤ 2 * n + tenPow s :=
    Nat.le_trans (halfEven_mul_le n (tenPow k))
      (Nat.add_le_add_left (tenPow_le_tenPow hk.le) _)
  have hrounded' : 2 * ((halfEven n (tenPow k) : ℚ) * tenPow k) ≤ 2 * n + tenPow s := by
    exact_mod_cast hrounded
  have hsplit : (tenPow s : ℚ) = tenPow (s - k) * tenPow k := by
    exact_mod_cast (tenPow_sub_mul hk.le).symm
  calc c'.value = (halfEven n (tenPow k) : ℚ) * tenPow k / tenPow s := by
        rw [value_of_negative_eq_false hnegative, hmagnitude, hscale, hsplit,
          mul_div_mul_right _ _ (tenPow_pos' k).ne']
    _ ≤ (n + tenPow s / 2) / tenPow s := by
        gcongr
        linarith
    _ = a.value + b.value + 1 / 2 := by
        rw [add_div, hexact, div_right_comm, div_self hpos'.ne']

/-! ## Lists -/

/-- A list that has a sum comes to at most half a unit more for each of its items. -/
theorem value_foldlM_add_le (hl : ∀ b ∈ l, 0 ≤ b.value) (ha : 0 ≤ a.value)
    (h : l.foldlM add a = .ok c) :
    0 ≤ c.value ∧ c.value ≤ a.value + (l.map value).sum + l.length / 2 := by
  induction l generalizing a with
  | nil =>
    obtain rfl : a = c := Except.ok.inj h
    simpa using ha
  | cons b l ih =>
    obtain ⟨hb, hl⟩ := List.forall_mem_cons.mp hl
    rw [List.foldlM_cons, bind_eq_ok] at h
    obtain ⟨d, hd, h⟩ := h
    have hd := add_eq_ok.mp hd
    have hfirst := value_add?_le ha hb hd
    obtain ⟨hnonneg, hrest⟩ := ih hl (value_add? ha hb hd).1 h
    refine ⟨hnonneg, ?_⟩
    rw [List.map_cons, List.sum_cons, List.length_cons]
    push_cast
    linarith

/-- A list has no sum when adding it up comes to the limit at one of its items. -/
theorem sum_eq_error_iff {e : ArithmeticOverflow} (hl : ∀ b ∈ l, 0 ≤ b.value) :
    sum l = .error e ↔ e = .addition ∧ ∃ early b late c, l = early ++ b :: late ∧
      sum early = .ok c ∧ limit ≤ c.value + b.value := by
  have hstep {early late : List Decimal} {b c : Decimal} (hsplit : l = early ++ b :: late)
      (hc : sum early = .ok c) :
      c.add b = .error e ↔ e = .addition ∧ limit ≤ c.value + b.value := by
    rw [hsplit, List.forall_mem_append, List.forall_mem_cons] at hl
    obtain ⟨hearly, hb, -⟩ := hl
    have hnonneg := (value_foldlM_add_le hearly value_zero.ge hc).1
    rw [add_eq_error, add?_eq_none_iff hnonneg hb]
  rw [sum, foldlM_eq_error]
  constructor
  · rintro ⟨early, b, late, c, hsplit, hc, herror⟩
    obtain ⟨he, hlimit⟩ := (hstep hsplit hc).mp herror
    exact ⟨he, early, b, late, c, hsplit, hc, hlimit⟩
  · rintro ⟨he, early, b, late, c, hsplit, hc, hlimit⟩
    exact ⟨early, b, late, c, hsplit, hc, (hstep hsplit hc).mpr ⟨he, hlimit⟩⟩

/-- A list whose exact sum stays below the limit, by half a unit for each of its items, has a
sum. -/
theorem exists_sum (hl : ∀ b ∈ l, 0 ≤ b.value)
    (hsum : (l.map value).sum + l.length / 2 < limit) : ∃ c, sum l = .ok c := by
  cases hadded : sum l with
  | ok c => exact ⟨c, rfl⟩
  | error e =>
    obtain ⟨-, early, b, late, c, rfl, hc, hlimit⟩ := (sum_eq_error_iff hl).mp hadded
    rw [List.forall_mem_append, List.forall_mem_cons] at hl
    obtain ⟨hearly, -, hlate⟩ := hl
    have hle := (value_foldlM_add_le hearly value_zero.ge hc).2
    have hrest : 0 ≤ (late.map value).sum := List.sum_nonneg (List.forall_mem_map.mpr hlate)
    rw [List.map_append, List.map_cons, List.sum_append, List.sum_cons, List.length_append,
      List.length_cons] at hsum
    rw [value_zero] at hle
    push_cast at hsum
    have hlength : (0 : ℚ) ≤ late.length := Nat.cast_nonneg _
    linarith

end Decimal

end Tokenomics
