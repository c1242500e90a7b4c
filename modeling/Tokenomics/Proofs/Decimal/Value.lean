import Mathlib.Algebra.Order.Field.Basic
import Mathlib.Data.Rat.Floor
import Mathlib.Tactic.FieldSimp
import Mathlib.Tactic.Linarith
import Mathlib.Tactic.Positivity
import Tokenomics.Proofs.Decimal.Rounding
import Tokenomics.Proofs.Steps

/-!
# The numbers that decimals stand for

`Decimal.value` is a rational number. The order of decimals is the order of their values
(`lt_iff`), and a sum of decimals that are not negative has the sum of their values unless it is so
large that places had to be given up: then it is at least seven (`value_add?`). So decimals whose
sum is one add up exactly (`value_sum_of_sameValue_one`).
-/

namespace Tokenomics.Decimal

/-- The number that a decimal stands for. -/
def value (a : Decimal) : ℚ := a.coefficient / tenPow a.scale

variable {a b c : Decimal}

theorem tenPow_pos' (k : Nat) : (0 : ℚ) < tenPow k := by
  exact_mod_cast tenPow_pos k

/-! ## Order -/

theorem lt_iff : a < b ↔ a.value < b.value := by
  rw [value, value, div_lt_div_iff₀ (tenPow_pos' a.scale) (tenPow_pos' b.scale)]
  show a.coefficient * (tenPow b.scale : Int) < b.coefficient * tenPow a.scale ↔ _
  exact_mod_cast Iff.rfl

theorem sameValue_iff : a.SameValue b ↔ a.value = b.value := by
  rw [value, value, div_eq_div_iff (tenPow_pos' a.scale).ne' (tenPow_pos' b.scale).ne']
  show a.coefficient * (tenPow b.scale : Int) = b.coefficient * tenPow a.scale ↔ _
  exact_mod_cast Iff.rfl

@[simp] theorem value_zero : zero.value = 0 := by
  simp [value, coefficient, zero, ofNat]

@[simp] theorem value_one : one.value = 1 := by
  simp [value, coefficient, one, ofNat]

theorem not_lt_zero_iff : ¬ a < zero ↔ 0 ≤ a.value := by
  rw [lt_iff, value_zero, not_lt]

/-! ## Values that are not negative -/

/-- The sign of a value that is not negative shows on zeros only. -/
theorem coefficient_of_nonneg (h : 0 ≤ a.value) : a.coefficient = a.magnitude := by
  have hnonneg : (0 : ℚ) ≤ a.coefficient := by
    have hmul := mul_nonneg h (tenPow_pos' a.scale).le
    rwa [value, div_mul_cancel₀ _ (tenPow_pos' a.scale).ne'] at hmul
  have hint : 0 ≤ a.coefficient := by exact_mod_cast hnonneg
  rw [coefficient] at hint ⊢
  split at hint
  · rw [if_pos ‹_›]
    omega
  · rw [if_neg ‹_›]

theorem value_of_nonneg (h : 0 ≤ a.value) : a.value = (a.magnitude : ℚ) / tenPow a.scale := by
  rw [value, coefficient_of_nonneg h, Int.cast_natCast]

theorem negative_of_nonneg (h : 0 ≤ a.value) (hne : a.isZero = false) : a.negative = false := by
  have hcoefficient := coefficient_of_nonneg h
  have hmagnitude : a.magnitude ≠ 0 := by
    rw [isZero, beq_eq_false_iff_ne] at hne
    exact hne
  rw [coefficient] at hcoefficient
  split at hcoefficient
  · omega
  · exact Bool.eq_false_iff.mpr ‹_›

theorem value_of_isZero (h : a.isZero = true) : a.value = 0 := by
  have hmagnitude : a.magnitude = 0 := beq_iff_eq.mp h
  rw [value, coefficient, hmagnitude]
  simp

theorem value_of_negative_eq_false (h : a.negative = false) :
    a.value = (a.magnitude : ℚ) / tenPow a.scale := by
  rw [value, coefficient, h, if_neg Bool.false_ne_true, Int.cast_natCast]

theorem value_nonneg_of_negative_eq_false (h : a.negative = false) : 0 ≤ a.value := by
  rw [value_of_negative_eq_false h]
  have hpos := tenPow_pos' a.scale
  positivity

theorem value_unsignedZero (a : Decimal) : a.unsignedZero.value = a.value := by
  cases hzero : a.isZero with
  | true =>
    have hunsigned : a.unsignedZero.isZero = true := hzero
    rw [value_of_isZero hunsigned, value_of_isZero hzero]
  | false => simp [value, coefficient, unsignedZero, hzero]

/-! ## Sums -/

theorem add_eq_ok : a.add b = .ok c ↔ a.add? b = some c := by
  rw [add]
  split
  · rename_i d hd
    rw [hd, Except.ok.injEq, Option.some.injEq]
  · rename_i hnone
    rw [hnone]
    exact ⟨fun h ↦ (nomatch h), fun h ↦ (nomatch h)⟩

theorem add_eq_error {e : ArithmeticOverflow} :
    a.add b = .error e ↔ e = .addition ∧ a.add? b = none := by
  rw [add]
  cases a.add? b with
  | some d => simp
  | none => simp [eq_comm]

/-- The sum of two decimals at a common scale. -/
theorem sum_div_tenPow {s : Nat} (hs : a.scale ≤ s) (hs' : b.scale ≤ s) :
    ((a.magnitude * tenPow (s - a.scale) + b.magnitude * tenPow (s - b.scale) : Nat) : ℚ)
      / tenPow s = (a.magnitude : ℚ) / tenPow a.scale + (b.magnitude : ℚ) / tenPow b.scale := by
  have hsplit : (tenPow (s - a.scale) : ℚ) * tenPow a.scale = tenPow s := by
    exact_mod_cast tenPow_sub_mul hs
  have hsplit' : (tenPow (s - b.scale) : ℚ) * tenPow b.scale = tenPow s := by
    exact_mod_cast tenPow_sub_mul hs'
  have hpos := tenPow_pos' a.scale
  have hpos' := tenPow_pos' b.scale
  have hposs := tenPow_pos' s
  rw [Nat.cast_add, Nat.cast_mul, Nat.cast_mul, add_div]
  congr 1
  · rw [div_eq_div_iff hposs.ne' hpos.ne', mul_assoc, hsplit]
  · rw [div_eq_div_iff hposs.ne' hpos'.ne', mul_assoc, hsplit']

/-- A number that has to give up places at a scale that decimals have is large, and stays so. -/
theorem seven_le_of_drops {n s k : Nat} (hs : s ≤ 28) (hn : 1 <<< 96 ≤ n) (hk : k ≤ s) :
    (7 : ℚ) ≤ (n : ℚ) / tenPow s ∧ (7 : ℚ) ≤ (halfEven n (tenPow k) : ℚ) / tenPow (s - k) := by
  have hseven : 7 * tenPow s ≤ n :=
    Nat.le_trans (Nat.mul_le_mul_left 7 (tenPow_le_tenPow hs)) (Nat.le_trans (by decide) hn)
  constructor
  · rw [le_div_iff₀ (tenPow_pos' s)]
    exact_mod_cast hseven
  · rw [le_div_iff₀ (tenPow_pos' (s - k))]
    have hmultiple : 7 * tenPow (s - k) * tenPow k ≤ n := by
      rwa [Nat.mul_assoc, tenPow_sub_mul hk]
    exact_mod_cast le_halfEven (tenPow_pos k) hmultiple

/-- A sum with a zero is the other summand. Any other sum of decimals that are not negative is the
exact sum, made to fit. -/
theorem add?_cases (ha : 0 ≤ a.value) (hb : 0 ≤ b.value) :
    a.value = 0 ∧ a.add? b = some b ∨ b.value = 0 ∧ a.add? b = some a ∨
      ∃ n s, s ≤ 28 ∧ a.add? b = fit? false n s ∧ (n : ℚ) / tenPow s = a.value + b.value := by
  rw [add?]
  split
  · exact .inl ⟨value_of_isZero ‹_›, rfl⟩
  split
  · exact .inr (.inl ⟨value_of_isZero ‹_›, rfl⟩)
  have hexact := sum_div_tenPow (Nat.le_max_left a.scale b.scale)
    (Nat.le_max_right a.scale b.scale)
  rw [← value_of_nonneg ha, ← value_of_nonneg hb] at hexact
  refine .inr (.inr ⟨_, _, Nat.max_le.mpr ⟨a.scale_le, b.scale_le⟩, ?_, hexact⟩)
  simp only [coefficient_of_nonneg ha, coefficient_of_nonneg hb]
  norm_cast

/-- A sum that keeps all places has the sum of the values; one that gives up places is large. -/
theorem value_add? (ha : 0 ≤ a.value) (hb : 0 ≤ b.value) (h : a.add? b = some c) :
    0 ≤ c.value ∧ (c.value = a.value + b.value ∨ 7 ≤ c.value ∧ 7 ≤ a.value + b.value) := by
  rcases add?_cases ha hb with ⟨hzero, hadd⟩ | ⟨hzero, hadd⟩ | ⟨n, s, hs, hadd, hexact⟩
  · obtain rfl := Option.some.inj (hadd.symm.trans h)
    exact ⟨hb, .inl (by rw [hzero, zero_add])⟩
  · obtain rfl := Option.some.inj (hadd.symm.trans h)
    exact ⟨ha, .inl (by rw [hzero, add_zero])⟩
  rw [hadd] at h
  obtain ⟨k, hk⟩ := exists_drops_of_fit? h
  obtain ⟨c', hc', hnegative, hmagnitude, hscale⟩ := fit?_of_drops hk false
  obtain rfl : c' = c := Option.some.inj (hc'.symm.trans h)
  have hvalue := value_of_negative_eq_false hnegative
  rw [hmagnitude, hscale] at hvalue
  refine ⟨value_nonneg_of_negative_eq_false hnegative, ?_⟩
  rcases Nat.lt_or_ge n (1 <<< 96) with hlt | hge
  · -- all places are kept
    obtain rfl : k = 0 := hk.unique (drops_zero hlt hs)
    rw [tenPow_zero, halfEven_one, Nat.sub_zero, hexact] at hvalue
    exact .inl hvalue
  · obtain ⟨hsum, hrounded⟩ := seven_le_of_drops hs hge hk.le
    rw [hexact] at hsum
    rw [← hvalue] at hrounded
    exact .inr ⟨hrounded, hsum⟩

/-- A list of decimals that are not negative adds up exactly, or to something large. -/
theorem value_foldlM_add {l : List Decimal} (hl : ∀ b ∈ l, 0 ≤ b.value) (ha : 0 ≤ a.value)
    (h : l.foldlM add a = .ok c) :
    c.value = a.value + (l.map value).sum ∨ 7 ≤ c.value := by
  induction l generalizing a with
  | nil =>
    obtain rfl : a = c := Except.ok.inj h
    exact .inl (by rw [List.map_nil, List.sum_nil, add_zero])
  | cons b l ih =>
    obtain ⟨hb, hl⟩ := List.forall_mem_cons.mp hl
    rw [List.foldlM_cons, bind_eq_ok] at h
    obtain ⟨d, hd, h⟩ := h
    obtain ⟨hnonneg, hvalue⟩ := value_add? ha hb (add_eq_ok.mp hd)
    have hrest : 0 ≤ (l.map value).sum :=
      List.sum_nonneg (List.forall_mem_map.mpr hl)
    rw [List.map_cons, List.sum_cons, ← add_assoc]
    -- once a partial sum is large, what is added to it does not make it smaller
    rcases ih hl hnonneg h with heq | hlarge
    · rcases hvalue with hvalue | ⟨hlarge, -⟩
      · exact .inl (by rw [heq, hvalue])
      · exact .inr (by linarith)
    · exact .inr hlarge

/-- Decimals whose sum is one have values that sum to one. -/
theorem value_sum_of_sameValue_one {l : List Decimal} (hl : ∀ b ∈ l, 0 ≤ b.value)
    (h : sum l = .ok c) (hone : c.SameValue one) : (l.map value).sum = 1 := by
  have hvalue : c.value = 1 := (sameValue_iff.mp hone).trans value_one
  rcases value_foldlM_add hl value_zero.ge h with heq | hlarge
  · rw [← hvalue, heq, value_zero, zero_add]
  · linarith

end Tokenomics.Decimal
