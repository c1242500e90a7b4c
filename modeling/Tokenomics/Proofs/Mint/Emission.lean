import Mathlib.Algebra.Order.BigOperators.Group.List
import Mathlib.Algebra.Order.Group.Nat
import Tokenomics.Proofs.Coin.Validity
import Tokenomics.Proofs.Mint.Data
import Tokenomics.Proofs.Mint.Vesting
import Tokenomics.Proofs.Steps

/-!
# What a block emits

A block that can be processed is taken apart once (`processBlock_eq_ok`). From that: its payments
are all made in the one denomination, their total is never cut off as long as the vesting table is
not absurdly long (`toNat_total`), and nothing in it depends on the sign of a zero
(`processBlock_congr`), which is all that is lost when the state is stored.
-/

namespace Tokenomics

variable {height : UInt64} {p : Params} {s : EmissionState} {e : Emission}

/-! ## The steps -/

theorem applyReduction_eq_ok {s' : EmissionState} {reduced : Bool} :
    applyReduction height p s = .ok (s', reduced) ↔
      s.lastReduction = 0 ∧ s' = { s with lastReduction := height } ∧ reduced = false ∨
      s.lastReduction ≠ 0 ∧ Word.sub height s.lastReduction < p.reductionPeriod ∧
        s' = s ∧ reduced = false ∨
      s.lastReduction ≠ 0 ∧ ¬ Word.sub height s.lastReduction < p.reductionPeriod ∧
        ∃ v, reducedProvisions p s.provisions = .ok v ∧
          s' = { s with provisions := v, lastReduction := height } ∧ reduced = true := by
  rw [applyReduction]
  by_cases hfirst : s.lastReduction = 0
  · simp only [hfirst, if_true, ne_eq, not_true, false_and, or_false, true_and]
    exact ⟨fun h ↦ Prod.ext_iff.mp (Except.ok.inj h).symm, fun h ↦ by rw [h.1, h.2]; rfl⟩
  · by_cases hearly : Word.sub height s.lastReduction < p.reductionPeriod
    · simp only [hfirst, hearly, if_true, if_false, ne_eq, not_true, not_false_eq_true, false_and,
        true_and, false_or, or_false]
      exact ⟨fun h ↦ Prod.ext_iff.mp (Except.ok.inj h).symm, fun h ↦ by rw [h.1, h.2]; rfl⟩
    · simp only [hfirst, hearly, if_false, ne_eq, not_false_eq_true, false_and, true_and, false_or]
      rw [bind_eq_ok]
      refine exists_congr fun v ↦ and_congr_right fun _ ↦ ?_
      exact ⟨fun h ↦ Prod.ext_iff.mp (Except.ok.inj h).symm, fun h ↦ by rw [h.1, h.2]; rfl⟩

theorem cursor_applyReduction {s' : EmissionState} {reduced : Bool}
    (h : applyReduction height p s = .ok (s', reduced)) : s'.cursor = s.cursor := by
  obtain ⟨-, rfl, -⟩ | ⟨-, -, rfl, -⟩ | ⟨-, -, v, -, rfl, -⟩ := applyReduction_eq_ok.mp h
  · rfl
  · rfl
  · rfl

/-- What a processed block is. -/
theorem processBlock_eq_ok : processBlock height p s = .ok e ↔
    height < p.startBlock ∧ e = ⟨height, s, [], false⟩ ∨
    ¬ height < p.startBlock ∧ ∃ s₁ reduced pools,
      applyReduction height p s = .ok (s₁, reduced) ∧
      poolPayments p s₁.provisions = .ok pools ∧
      e = ⟨height, { s₁ with cursor := s₁.cursor.moveTo height },
        pools ++ vestingPayments p (s₁.cursor.advance height).2, reduced⟩ := by
  rw [processBlock]
  by_cases hstart : height < p.startBlock
  · simp only [hstart, if_true, not_true, false_and, or_false, true_and]
    exact ⟨fun h ↦ (Except.ok.inj h).symm, fun h ↦ congrArg _ h.symm⟩
  · simp only [hstart, if_false, not_false_eq_true, false_and, true_and, false_or]
    constructor
    · intro h
      obtain ⟨⟨s₁, reduced⟩, hs₁, h⟩ := bind_eq_ok.mp h
      obtain ⟨pools, hpools, h⟩ := bind_eq_ok.mp h
      exact ⟨s₁, reduced, pools, hs₁, hpools, (Except.ok.inj h).symm⟩
    · rintro ⟨s₁, reduced, pools, hs₁, hpools, rfl⟩
      exact bind_eq_ok.mpr ⟨(s₁, reduced), hs₁, bind_eq_ok.mpr ⟨pools, hpools, rfl⟩⟩

theorem poolPayment_eq_ok {v : Decimal} {pool : Pool} {o : Option Payment} :
    poolPayment p v pool = .ok o ↔ ∃ product, v.mul (p.shares.of pool) = .ok product ∧
      o = if (truncateToUnits product).isZero then none
        else some ⟨.pool pool, pool.recipient p, ⟨p.denom, truncateToUnits product⟩⟩ := by
  rw [poolPayment, bind_eq_ok]
  refine exists_congr fun product ↦ and_congr_right fun _ ↦ ?_
  show (if (truncateToUnits product).isZero then _ else _) = _ ↔ _
  split
  · exact ⟨fun h ↦ (Except.ok.inj h).symm, fun h ↦ congrArg _ h.symm⟩
  · exact ⟨fun h ↦ (Except.ok.inj h).symm, fun h ↦ congrArg _ h.symm⟩

theorem poolPayments_eq_ok {v : Decimal} {pools : List Payment} :
    poolPayments p v = .ok pools ↔
      ∃ os, Pool.all.mapM (poolPayment p v) = .ok os ∧ pools = os.filterMap id := by
  rw [poolPayments, bind_eq_ok]
  refine exists_congr fun os ↦ and_congr_right fun _ ↦ ?_
  exact ⟨fun h ↦ (Except.ok.inj h).symm, fun h ↦ congrArg _ h.symm⟩

/-- Every payment to the pools is the payment to one of them, and is never nothing. -/
theorem eq_of_mem_poolPayments {v : Decimal} {pools : List Payment}
    (h : poolPayments p v = .ok pools) {x : Payment} (hx : x ∈ pools) :
    ∃ pool product, v.mul (p.shares.of pool) = .ok product ∧
      (truncateToUnits product).isZero = false ∧
      x = ⟨.pool pool, pool.recipient p, ⟨p.denom, truncateToUnits product⟩⟩ := by
  obtain ⟨os, hos, rfl⟩ := poolPayments_eq_ok.mp h
  obtain ⟨o, ho, hox⟩ := List.mem_filterMap.mp hx
  obtain ⟨pool, -, hpool⟩ := exists_of_mem_mapM hos ho
  obtain ⟨product, hproduct, rfl⟩ := poolPayment_eq_ok.mp hpool
  refine ⟨pool, product, hproduct, ?_⟩
  rw [id] at hox
  split at hox
  · exact nomatch hox
  · rename_i hne
    exact ⟨Bool.eq_false_iff.mpr hne, (Option.some.inj hox).symm⟩

theorem length_poolPayments_le {v : Decimal} {pools : List Payment}
    (h : poolPayments p v = .ok pools) : pools.length ≤ 5 := by
  obtain ⟨os, hos, rfl⟩ := poolPayments_eq_ok.mp h
  exact Nat.le_trans (List.length_filterMap_le id os)
    (Nat.le_of_eq (mapM_eq_ok.mp hos).length_eq.symm)

/-! ## Denominations -/

theorem denom_of_mem_vestingDue {o n : Nat} {x : Payment} (hx : x ∈ vestingDue p o n) :
    x.amount.denom = p.denom := by
  obtain ⟨k, r, -, m, -, rfl⟩ := eq_of_mem_vestingDue hx
  rfl

/-- All payments of a block are made in the one denomination. -/
theorem denom_of_mem_payments (hp : scheduleLength p.receivers < 1 <<< 64 - 1)
    (h : processBlock height p s = .ok e) {x : Payment} (hx : x ∈ e.payments) :
    x.amount.denom = p.denom := by
  obtain ⟨-, rfl⟩ | ⟨-, s₁, reduced, pools, -, hpools, rfl⟩ := processBlock_eq_ok.mp h
  · exact absurd hx List.not_mem_nil
  · rcases List.mem_append.mp hx with hx | hx
    · obtain ⟨pool, product, -, -, rfl⟩ := eq_of_mem_poolPayments hpools hx
      rfl
    · rw [vestingPayments_advance p hp] at hx
      exact denom_of_mem_vestingDue hx

/-! ## Totals -/

/-- How much some payments pay in all. -/
def unitsOf (xs : List Payment) : Nat := (xs.map (·.amount.amount.toNat)).sum

theorem unitsOf_append (xs ys : List Payment) : unitsOf (xs ++ ys) = unitsOf xs + unitsOf ys := by
  rw [unitsOf, List.map_append, List.sum_append]
  rfl

theorem toNat_sumOf (xs : List Payment) :
    (Emission.sumOf xs).toNat = min (unitsOf xs) (1 <<< 128 - 1) := by
  rw [Emission.sumOf, Amount.toNat_total, List.map_map]
  rfl

theorem wholeUnits_lt_magnitudes (v : Decimal) : wholeUnits v < 1 <<< 96 := by
  have hlt := v.magnitude_lt
  rw [wholeUnits, Decimal.floor?]
  split
  · exact Nat.zero_lt_of_lt hlt
  · exact Nat.lt_of_le_of_lt (Nat.div_le_self _ _) hlt

theorem unitsOf_poolPayments_le {v : Decimal} {pools : List Payment}
    (h : poolPayments p v = .ok pools) : unitsOf pools ≤ 5 * (1 <<< 96) := by
  have hunits : ∀ n ∈ pools.map (·.amount.amount.toNat), n ≤ 1 <<< 96 := by
    intro n hn
    obtain ⟨x, hx, rfl⟩ := List.mem_map.mp hn
    obtain ⟨pool, product, -, -, rfl⟩ := eq_of_mem_poolPayments h hx
    exact Nat.le_of_lt (wholeUnits_lt_magnitudes product)
  calc unitsOf pools
      ≤ (pools.map (·.amount.amount.toNat)).length * (1 <<< 96) :=
        List.sum_le_card_nsmul _ _ hunits
    _ = pools.length * (1 <<< 96) := by rw [List.length_map]
    _ ≤ 5 * (1 <<< 96) := Nat.mul_le_mul_right _ (length_poolPayments_le h)

theorem recipient_of_mem_vestingDue {o n : Nat} {x : Payment} (hx : x ∈ vestingDue p o n) :
    ∃ r ∈ p.receivers, x.recipient = .account r.address := by
  obtain ⟨k, r, hr, m, -, rfl⟩ := eq_of_mem_vestingDue hx
  exact ⟨r, hr, rfl⟩

/-- The length of the vesting table, all receivers taken together. -/
def Params.entryCount (p : Params) : Nat := (p.receivers.map (·.monthlyAmounts.length)).sum

theorem foldl_max_le_sum (l : List Nat) (n : Nat) : l.foldl max n ≤ n + l.sum := by
  induction l generalizing n with
  | nil => exact Nat.le_add_right n 0
  | cons k l ih =>
    have h := ih (max n k)
    rw [List.foldl_cons, List.sum_cons]
    omega

theorem scheduleLength_le_entryCount (p : Params) : scheduleLength p.receivers ≤ p.entryCount := by
  have h := foldl_max_le_sum (p.receivers.map (·.monthlyAmounts.length)) 0
  rwa [Nat.zero_add] at h

/-- A table that is not absurdly long ends before the greatest month. -/
theorem scheduleLength_lt (hp : p.entryCount < 1 <<< 62) :
    scheduleLength p.receivers < 1 <<< 64 - 1 :=
  Nat.lt_of_le_of_lt (scheduleLength_le_entryCount p) (Nat.lt_trans hp (by decide))

theorem Receiver.unitsDue_le (r : Receiver) (o n : Nat) :
    r.unitsDue o n ≤ r.monthlyAmounts.length * (1 <<< 64) := by
  have hunits : ∀ k ∈ ((r.monthlyAmounts.drop o).take (n - o)).map UInt64.toNat, k ≤ 1 <<< 64 := by
    intro k hk
    obtain ⟨m, -, rfl⟩ := List.mem_map.mp hk
    exact Nat.le_of_lt m.toNat_lt
  have hlength : ((r.monthlyAmounts.drop o).take (n - o)).length ≤ r.monthlyAmounts.length := by
    rw [List.length_take, List.length_drop]
    omega
  calc r.unitsDue o n
      ≤ (((r.monthlyAmounts.drop o).take (n - o)).map UInt64.toNat).length * (1 <<< 64) :=
        List.sum_le_card_nsmul _ _ hunits
    _ ≤ r.monthlyAmounts.length * (1 <<< 64) := by
        rw [List.length_map]
        exact Nat.mul_le_mul_right _ hlength

theorem unitsOf_vestingDue_le (p : Params) (o n : Nat) :
    unitsOf (vestingDue p o n) ≤ p.entryCount * (1 <<< 64) := by
  have hunits : unitsOf (vestingDue p o n)
      = ((vestingDue p o n).map (Payment.unitsTo fun _ ↦ true)).sum := by
    refine congrArg List.sum (List.map_congr_left fun x hx ↦ ?_)
    obtain ⟨r, -, hr⟩ := recipient_of_mem_vestingDue hx
    rw [Payment.unitsTo, hr]
    rfl
  rw [hunits, sum_vestingDue, Params.entryCount]
  induction p.receivers with
  | nil => exact Nat.le_refl 0
  | cons r receivers ih =>
    rw [List.map_cons, List.map_cons, List.sum_cons, List.sum_cons, Nat.add_mul]
    exact Nat.add_le_add (r.unitsDue_le o n) ih

/-- At most five pools are paid, of 96 bits each, and a table with entries of 64 bits. -/
theorem unitsOf_payments_le (hp : scheduleLength p.receivers < 1 <<< 64 - 1)
    (h : processBlock height p s = .ok e) :
    unitsOf e.payments ≤ 5 * (1 <<< 96) + p.entryCount * (1 <<< 64) := by
  obtain ⟨-, rfl⟩ | ⟨-, s₁, reduced, pools, -, hpools, rfl⟩ := processBlock_eq_ok.mp h
  · exact Nat.zero_le _
  · rw [vestingPayments_advance p hp, unitsOf_append]
    exact Nat.add_le_add (unitsOf_poolPayments_le hpools) (unitsOf_vestingDue_le p _ _)

/-- The total of a block is not cut off: a table of fewer than `2 ^ 62` entries is never that
much. -/
theorem toNat_total (hp : p.entryCount < 1 <<< 62) (h : processBlock height p s = .ok e) :
    e.total.toNat = unitsOf e.payments := by
  have hbound := unitsOf_payments_le (scheduleLength_lt hp) h
  rw [Emission.total, toNat_sumOf]
  omega

/-! ## The sign of a zero

A state that was stored and read again may have lost the sign of a zero. No product has that sign
either, so the two states go on alike. -/

/-- The emission without the sign of a zero in its state. -/
def Emission.unsigned (e : Emission) : Emission := { e with state := e.state.unsigned }

theorem Decimal.mul?_unsignedZero (a b : Decimal) : a.unsignedZero.mul? b = a.mul? b := by
  cases ha : a.isZero with
  | true =>
    rw [mul?, mul?, isZero_unsignedZero, ha]
    rfl
  | false => rw [unsignedZero_of_isZero_eq_false ha]

theorem Decimal.mul_congr {a b : Decimal} (h : a.unsignedZero = b.unsignedZero) (c : Decimal) :
    a.mul c = b.mul c := by
  rw [mul, mul, ← mul?_unsignedZero, h, mul?_unsignedZero]

theorem reducedProvisions_congr {v w : Decimal} (h : v.unsignedZero = w.unsignedZero) :
    reducedProvisions p v = reducedProvisions p w := by
  rw [reducedProvisions, reducedProvisions, Decimal.mul_congr h]

theorem poolPayments_congr {v w : Decimal} (h : v.unsignedZero = w.unsignedZero) :
    poolPayments p v = poolPayments p w := by
  have hpayment : poolPayment p v = poolPayment p w := by
    funext pool
    rw [poolPayment, poolPayment, Decimal.mul_congr h]
  rw [poolPayments, poolPayments, hpayment]

theorem unsigned_eq_iff {s t : EmissionState} : s.unsigned = t.unsigned ↔
    s.provisions.unsignedZero = t.provisions.unsignedZero ∧ s.lastReduction = t.lastReduction ∧
      s.cursor = t.cursor := by
  rw [EmissionState.unsigned, EmissionState.unsigned, EmissionState.mk.injEq]

theorem applyReduction_congr {s t s' : EmissionState} {reduced : Bool}
    (hst : s.unsigned = t.unsigned) (h : applyReduction height p s = .ok (s', reduced)) :
    ∃ t', applyReduction height p t = .ok (t', reduced) ∧ s'.unsigned = t'.unsigned := by
  obtain ⟨hprovisions, hlast, hcursor⟩ := unsigned_eq_iff.mp hst
  obtain ⟨hfirst, rfl, rfl⟩ | ⟨hnext, hearly, rfl, rfl⟩ | ⟨hnext, hdue, v, hv, rfl, rfl⟩ :=
    applyReduction_eq_ok.mp h
  · rw [hlast] at hfirst
    exact ⟨_, applyReduction_eq_ok.mpr (.inl ⟨hfirst, rfl, rfl⟩),
      unsigned_eq_iff.mpr ⟨hprovisions, rfl, hcursor⟩⟩
  · rw [hlast] at hnext hearly
    exact ⟨_, applyReduction_eq_ok.mpr (.inr (.inl ⟨hnext, hearly, rfl, rfl⟩)), hst⟩
  · rw [hlast] at hnext hdue
    rw [reducedProvisions_congr hprovisions] at hv
    exact ⟨_, applyReduction_eq_ok.mpr (.inr (.inr ⟨hnext, hdue, v, hv, rfl, rfl⟩)),
      unsigned_eq_iff.mpr ⟨rfl, rfl, hcursor⟩⟩

theorem processBlock_congr {s t : EmissionState} (hst : s.unsigned = t.unsigned)
    (h : processBlock height p s = .ok e) :
    ∃ e', processBlock height p t = .ok e' ∧ e.unsigned = e'.unsigned := by
  obtain ⟨hstart, rfl⟩ | ⟨hstart, s₁, reduced, pools, hs₁, hpools, rfl⟩ :=
    processBlock_eq_ok.mp h
  · exact ⟨_, processBlock_eq_ok.mpr (.inl ⟨hstart, rfl⟩), by
      rw [Emission.unsigned, Emission.unsigned, hst]⟩
  · obtain ⟨t₁, ht₁, hunsigned⟩ := applyReduction_congr hst hs₁
    obtain ⟨hprovisions, hlast, hcursor⟩ := unsigned_eq_iff.mp hunsigned
    rw [poolPayments_congr hprovisions] at hpools
    refine ⟨_, processBlock_eq_ok.mpr (.inr ⟨hstart, t₁, reduced, pools, ht₁, hpools, rfl⟩), ?_⟩
    rw [Emission.unsigned, Emission.unsigned, Emission.mk.injEq, hcursor]
    exact ⟨rfl, unsigned_eq_iff.mpr ⟨hprovisions, hlast, rfl⟩, rfl, rfl⟩

end Tokenomics
