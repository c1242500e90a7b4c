import Mathlib.Algebra.BigOperators.Ring.List
import Tokenomics.Mint.Genesis
import Tokenomics.Proofs.Decimal.Product
import Tokenomics.Proofs.Mint.Emission

/-!
# How provisions are split over the pools

The shares of valid parameters are not negative and sum to one exactly (`sum_shares`), so the exact
parts of the provisions sum to the provisions, and paying the whole units of each part would leave
less than five units over. What is paid to a pool is that, unless rounding lifts the product with
its share to the next whole number before the fraction is dropped: then the pool gets one unit
more. `poolPayments_faithful_iff` says that this is the only way in which the split can go wrong,
and `payout_above_provisions` that it does, to the point of minting more than the
provisions.
-/

namespace Tokenomics

variable {p : Params} {v : Decimal}

/-! ## Valid shares -/

theorem Shares.checkSign_eq_ok {s : Shares} {pool : Pool} :
    s.checkSign pool = .ok () ↔ ¬ s.of pool < .zero := by
  rw [checkSign]
  split
  · rename_i h
    exact ⟨fun h ↦ (nomatch h), fun hn ↦ absurd h hn⟩
  · rename_i h
    exact ⟨fun _ ↦ h, fun _ ↦ rfl⟩

theorem Shares.validate_eq_ok {s : Shares} : s.validate = .ok () ↔
    (∀ pool ∈ Pool.all, ¬ s.of pool < .zero) ∧
      ∃ total, s.total = .ok total ∧ total.SameValue .one := by
  rw [validate, check_bind_eq_ok, forM_eq_ok]
  refine and_congr (forall₂_congr fun pool _ ↦ checkSign_eq_ok) ?_
  split
  · rename_i e he
    rw [he]
    exact ⟨fun h ↦ (nomatch h), fun ⟨_, h, _⟩ ↦ (nomatch h)⟩
  · rename_i total htotal
    rw [htotal]
    split
    · rename_i hone
      exact ⟨fun _ ↦ ⟨total, rfl, hone⟩, fun _ ↦ rfl⟩
    · rename_i hone
      exact ⟨fun h ↦ (nomatch h), fun ⟨_, h, h'⟩ ↦ absurd (Except.ok.inj h ▸ h') hone⟩

/-- What parameters that break no rule satisfy. -/
theorem Params.validate_eq_ok : p.validate = .ok () ↔
    checkMintDenom p.denom = .ok () ∧ ¬ p.genesisProvisions < .zero ∧
      checkPrecision p.genesisProvisions = .ok () ∧ p.reductionPeriod ≠ 0 ∧
      ¬ (p.reductionFactor < .zero ∨ .one < p.reductionFactor) ∧ p.shares.validate = .ok () := by
  rw [validate, check_bind_eq_ok]
  refine and_congr_right fun _ ↦ throw_if_eq_ok.trans (and_congr_right fun _ ↦ ?_)
  refine check_bind_eq_ok.trans (and_congr_right fun _ ↦ ?_)
  exact throw_if_eq_ok.trans (and_congr_right fun _ ↦ throw_if_eq_ok)

theorem Params.shares_of_validate (h : p.validate = .ok ()) : p.shares.validate = .ok () :=
  (validate_eq_ok.mp h).2.2.2.2.2

theorem Pool.mem_all (pool : Pool) : pool ∈ Pool.all := by
  cases pool <;> decide

theorem share_nonneg (h : p.validate = .ok ()) (pool : Pool) : 0 ≤ (p.shares.of pool).value :=
  Decimal.not_lt_zero_iff.mp
    ((Shares.validate_eq_ok.mp (Params.shares_of_validate h)).1 pool pool.mem_all)

/-- Valid shares sum to one exactly: a sum in which places were given up is not near one. -/
theorem sum_shares (h : p.validate = .ok ()) :
    (Pool.all.map fun pool ↦ (p.shares.of pool).value).sum = 1 := by
  obtain ⟨-, total, htotal, hone⟩ := Shares.validate_eq_ok.mp (Params.shares_of_validate h)
  have hnonneg : ∀ b ∈ p.shares.toList, 0 ≤ b.value :=
    List.forall_mem_map.mpr fun pool _ ↦ share_nonneg h pool
  rw [← Decimal.value_sum_of_sameValue_one hnonneg htotal hone, Shares.toList, List.map_map]
  rfl

theorem share_le_one (h : p.validate = .ok ()) (pool : Pool) : (p.shares.of pool).value ≤ 1 := by
  rw [← sum_shares h]
  refine List.single_le_sum (List.forall_mem_map.mpr fun pool _ ↦ share_nonneg h pool) _ ?_
  exact List.mem_map_of_mem pool.mem_all

/-! ## The legs of a split -/

/-- The pools that are paid, each with its amount; a pool that would get nothing is left out. -/
def legs (units : Pool → Nat) : List (Allocation × Nat) :=
  Pool.all.filterMap fun pool ↦ if units pool = 0 then none else some (.pool pool, units pool)

/-- What some payments are for, each with its amount. -/
def legsOf (xs : List Payment) : List (Allocation × Nat) :=
  xs.map fun x ↦ (x.allocation, x.amount.amount.toNat)

/-- The whole units in the exact part of the provisions that a pool is entitled to. -/
def exactUnits (p : Params) (v : Decimal) (pool : Pool) : Nat :=
  ⌊v.value * (p.shares.of pool).value⌋₊

/-- A split of provisions as it is promised: every pool gets the whole units of its exact part, and
the payments stay within the provisions and leave less than five units of them. -/
structure Faithful (p : Params) (v : Decimal) (xs : List Payment) : Prop where
  legs_eq : legsOf xs = legs (exactUnits p v)
  le : (unitsOf xs : ℚ) ≤ v.value
  left_lt : v.value - unitsOf xs < 5

theorem mem_legs {units : Pool → Nat} {pool : Pool} {n : Nat} :
    (.pool pool, n) ∈ legs units ↔ n = units pool ∧ n ≠ 0 := by
  rw [legs, List.mem_filterMap]
  constructor
  · rintro ⟨pool', -, h⟩
    split at h
    · exact nomatch h
    · rename_i hne
      obtain ⟨rfl, rfl⟩ : pool' = pool ∧ units pool' = n := by
        simpa only [Option.some.injEq, Prod.mk.injEq, Allocation.pool.injEq] using h
      exact ⟨rfl, hne⟩
  · rintro ⟨rfl, hne⟩
    exact ⟨pool, pool.mem_all, if_neg hne⟩

/-- The legs tell how much every pool gets. -/
theorem legs_inj {units units' : Pool → Nat} : legs units = legs units' ↔ units = units' := by
  refine ⟨fun h ↦ funext fun pool ↦ ?_, congrArg legs⟩
  -- a pool that is left out gets nothing, and in the other legs it would show if it got something
  by_cases hzero : units pool = 0
  · by_contra hne
    have hmem : (.pool pool, units' pool) ∈ legs units' := mem_legs.mpr ⟨rfl, by omega⟩
    rw [← h] at hmem
    exact hne (mem_legs.mp hmem).1.symm
  · have hmem : (.pool pool, units pool) ∈ legs units := mem_legs.mpr ⟨rfl, hzero⟩
    rw [h] at hmem
    exact (mem_legs.mp hmem).1

theorem sum_legs (units : Pool → Nat) :
    ((legs units).map Prod.snd).sum = (Pool.all.map units).sum := by
  rw [legs]
  induction Pool.all with
  | nil => rfl
  | cons pool l ih =>
    rw [List.map_cons, List.sum_cons, ← ih, List.filterMap_cons]
    by_cases hzero : units pool = 0
    · rw [if_pos hzero, hzero, Nat.zero_add]
    · rw [if_neg hzero]
      rfl

theorem unitsOf_eq_sum_legsOf (xs : List Payment) :
    unitsOf xs = ((legsOf xs).map Prod.snd).sum := by
  rw [unitsOf, legsOf, List.map_map]
  rfl

/-- Whole units of the exact parts stay within the provisions, and leave less than one unit of each
part. -/
theorem sum_exactUnits (hp : p.validate = .ok ()) (hv : 0 ≤ v.value) :
    ((Pool.all.map (exactUnits p v)).sum : ℚ) ≤ v.value ∧
      v.value - (Pool.all.map (exactUnits p v)).sum < 5 := by
  have hle (pool : Pool) : (exactUnits p v pool : ℚ) ≤ v.value * (p.shares.of pool).value :=
    Nat.floor_le (mul_nonneg hv (share_nonneg hp pool))
  have hlt (pool : Pool) : v.value * (p.shares.of pool).value < exactUnits p v pool + 1 :=
    Nat.lt_floor_add_one _
  have hsum : (Pool.all.map fun pool ↦ v.value * (p.shares.of pool).value).sum = v.value := by
    rw [List.sum_map_mul_left, sum_shares hp, mul_one]
  simp only [Pool.all, List.map_cons, List.map_nil, List.sum_cons, List.sum_nil] at hsum ⊢
  push_cast
  constructor
  · linarith [hle .grantsProgram, hle .communityPool, hle .usageIncentive, hle .staking,
      hle .developerRewards]
  · linarith [hlt .grantsProgram, hlt .communityPool, hlt .usageIncentive, hlt .staking,
      hlt .developerRewards]

/-- A split is faithful as soon as every pool gets what it should. -/
theorem faithful_iff {xs : List Payment} (hp : p.validate = .ok ()) (hv : 0 ≤ v.value) :
    Faithful p v xs ↔ legsOf xs = legs (exactUnits p v) := by
  refine ⟨Faithful.legs_eq, fun h ↦ ?_⟩
  have hunits : unitsOf xs = (Pool.all.map (exactUnits p v)).sum := by
    rw [unitsOf_eq_sum_legsOf, h, sum_legs]
  obtain ⟨hle, hlt⟩ := sum_exactUnits hp hv
  rw [← hunits] at hle hlt
  exact ⟨h, hle, hlt⟩

/-! ## What is paid -/

/-- The payments to the pools, when the product with each share has these whole units. -/
theorem exists_poolPayments {units : Pool → Nat} (h : ∀ pool, ∃ c,
    v.mul? (p.shares.of pool) = some c ∧ c.floor? = some (units pool)) :
    ∃ pools, poolPayments p v = .ok pools ∧ legsOf pools = legs units := by
  choose c hc hunits using h
  let payment (pool : Pool) : Option Payment :=
    if (truncateToUnits (c pool)).isZero then none
    else some ⟨.pool pool, pool.recipient p, ⟨p.denom, truncateToUnits (c pool)⟩⟩
  have hpayment (pool : Pool) : poolPayment p v pool = .ok (payment pool) :=
    poolPayment_eq_ok.mpr ⟨c pool, by rw [Decimal.mul, hc], rfl⟩
  have htoNat (pool : Pool) : (truncateToUnits (c pool)).toNat = units pool := by
    show (c pool).floor?.getD 0 = units pool
    rw [hunits, Option.getD_some]
  refine ⟨(Pool.all.map payment).filterMap id, poolPayments_eq_ok.mpr ⟨_, ?_, rfl⟩, ?_⟩
  · rw [mapM_eq_ok, List.forall₂_map_right_iff, List.forall₂_same]
    exact fun pool _ ↦ hpayment pool
  · rw [legsOf, legs, List.filterMap_map, List.map_filterMap]
    refine List.filterMap_congr fun pool _ ↦ ?_
    show (payment pool).map _ = _
    by_cases hzero : units pool = 0
    · have hnone : payment pool = none := if_pos (beq_iff_eq.mpr ((htoNat pool).trans hzero))
      rw [hnone, if_pos hzero, Option.map_none]
    · have hsome : payment pool = some ⟨.pool pool, pool.recipient p,
          ⟨p.denom, truncateToUnits (c pool)⟩⟩ := if_neg fun h ↦
        hzero ((htoNat pool).symm.trans (beq_iff_eq.mp h))
      rw [hsome, if_neg hzero, Option.map_some, htoNat]

/-- Provisions that are not negative are always split, and every pool gets the whole units of its
exact part, or one more where the product with its share is lifted. So the split is faithful
exactly when no product is. -/
theorem poolPayments_faithful_iff (hp : p.validate = .ok ()) (hv : ¬ v < .zero) :
    ∃ pools units, poolPayments p v = .ok pools ∧ legsOf pools = legs units ∧
      (∀ pool, units pool = exactUnits p v pool ∧ ¬ v.Lifts (p.shares.of pool) ∨
        units pool = exactUnits p v pool + 1 ∧ v.Lifts (p.shares.of pool)) ∧
      (Faithful p v pools ↔ ∀ pool, ¬ v.Lifts (p.shares.of pool)) := by
  have hv' : 0 ≤ v.value := Decimal.not_lt_zero_iff.mp hv
  choose c units hc hfloor hunits using fun pool ↦
    Decimal.exists_mul? hv' (share_nonneg hp pool) (share_le_one hp pool)
  obtain ⟨pools, hpools, hlegs⟩ := exists_poolPayments fun pool ↦ ⟨c pool, hc pool, hfloor pool⟩
  refine ⟨pools, units, hpools, hlegs, hunits, ?_⟩
  rw [faithful_iff hp hv', hlegs, legs_inj, funext_iff]
  refine forall_congr' fun pool ↦ ?_
  obtain ⟨heq, hlifts⟩ | ⟨heq, hlifts⟩ := hunits pool
  · exact iff_of_true heq hlifts
  · exact iff_of_false (by rw [heq]; exact Nat.succ_ne_self _) (not_not_intro hlifts)

/-- The provisions that a chain starts with are split faithfully. -/
theorem faithful_standard : Params.standard.validate = .ok () ∧
    ¬ Params.standard.genesisProvisions < .zero ∧
    ∃ pools, poolPayments .standard Params.standard.genesisProvisions = .ok pools ∧
      Faithful .standard Params.standard.genesisProvisions pools := by
  have hvalid : Params.standard.validate = .ok () := by decide +kernel
  have hprovisions : ¬ Params.standard.genesisProvisions < .zero := by decide
  obtain ⟨pools, -, hpools, -, -, hfaithful⟩ := poolPayments_faithful_iff hvalid hprovisions
  refine ⟨hvalid, hprovisions, pools, hpools, hfaithful.mpr fun pool ↦ ?_⟩
  cases pool
  all_goals exact Decimal.not_lifts_of_fits (by decide) (by decide)

/-- A genesis in which the largest magnitude, an odd one, is split between two pools. -/
def Genesis.halves : Genesis where
  params :=
    { Params.standard with shares := ⟨.hundredths 50, .hundredths 50, .zero, .zero, .zero⟩ }
  state := ⟨.ofNat 79228162514264337593543950335, 0, .standard⟩

/-- The half of an odd magnitude is a tie, and it is rounded up where the next whole number is even.
Both pools get it, and together they get more than the provisions. -/
theorem payout_above_provisions : Genesis.halves.validate = .ok () ∧
    ∃ pools, poolPayments Genesis.halves.params Genesis.halves.state.provisions = .ok pools ∧
      Genesis.halves.state.provisions.value < unitsOf pools ∧
      ¬ Faithful Genesis.halves.params Genesis.halves.state.provisions pools := by
  refine ⟨by decide +kernel, _, rfl, ?_⟩
  refine (and_iff_left_of_imp fun habove hfaithful ↦ not_le_of_gt habove hfaithful.le).mpr ?_
  rw [Decimal.value_of_negative_eq_false rfl, div_lt_iff₀ (Decimal.tenPow_pos' _)]
  exact_mod_cast (show 79228162514264337593543950335 < 79228162514264337593543950336 * 1 by decide)

end Tokenomics
