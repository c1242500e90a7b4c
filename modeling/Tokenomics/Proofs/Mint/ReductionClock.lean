import Tokenomics.Proofs.Mint.Provisions

/-!
# When provisions are reduced

The state keeps the height of the last reduction, and a zero there says that no block has started
the count; a block at height zero keeps that very zero and does not start it either. What one block
does is said once (`ticks_processBlock`): it reduces exactly when a full period has passed since the
kept height, and the kept height moves only then, or when the count is started.

Along any heights, two reductions are therefore a period apart (`keepsTime_emissions`). Where no
height is left out, each reduction comes at the first height at which it is due, so the reductions
are at the multiples of the period after the block that started the count (`onSchedule_of_ticks`).
`reductions_emissions` puts the two together.
-/

namespace Tokenomics

variable {height : UInt64} {p : Params} {st : EmissionState} {e : Emission}
  {es : List Emission} {v : Decimal}

/-! ## One block -/

/-- What a block does to the provisions and to the count. -/
structure Ticks (p : Params) (st : EmissionState) (e : Emission) : Prop where
  due_iff : e.reduced = true ↔ p.startBlock ≤ e.height ∧ st.lastReduction ≠ 0 ∧
    st.lastReduction.toNat + p.reductionPeriod.toNat ≤ e.height.toNat
  /-- One reduction, and not another one in the same block. -/
  provisions_of_reduced : e.reduced = true →
    reducedProvisions p st.provisions = .ok e.state.provisions
  provisions_of_not_reduced : e.reduced = false → e.state.provisions = st.provisions
  /-- Once the count has been started, only a reduction moves it. -/
  anchored : st.lastReduction ≠ 0 →
    e.state.lastReduction = if e.reduced then e.height else st.lastReduction
  unanchored : st.lastReduction = 0 →
    e.state.lastReduction = if p.startBlock ≤ e.height then e.height else 0

theorem toNat_period_pos (hperiod : p.reductionPeriod ≠ 0) : 0 < p.reductionPeriod.toNat :=
  Nat.pos_of_ne_zero fun hzero ↦ hperiod (UInt64.toNat_inj.mp hzero)

/-- A period that has not passed since a height. -/
theorem word_sub_lt_iff {a b : UInt64} (hperiod : p.reductionPeriod ≠ 0) :
    Word.sub a b < p.reductionPeriod ↔ a.toNat < b.toNat + p.reductionPeriod.toNat := by
  have hpos := toNat_period_pos hperiod
  rw [UInt64.lt_iff_toNat_lt, Word.toNat_sub]
  omega

theorem ticks_processBlock (hperiod : p.reductionPeriod ≠ 0)
    (h : processBlock height p st = .ok e) : e.height = height ∧ Ticks p st e := by
  obtain ⟨hstart, rfl⟩ | ⟨hstart, st₁, reduced, pools, hst₁, -, rfl⟩ := processBlock_eq_ok.mp h
  · have hnot : ¬ p.startBlock ≤ height := UInt64.not_le.mpr hstart
    refine ⟨rfl, {
      due_iff := ⟨nofun, fun hdue ↦ absurd hdue.1 hnot⟩
      provisions_of_reduced := nofun
      provisions_of_not_reduced := fun _ ↦ rfl
      anchored := fun _ ↦ rfl
      unanchored := fun hzero ↦ ?_ }⟩
    rw [if_neg hnot]
    exact hzero
  · have hstarted : p.startBlock ≤ height := UInt64.not_lt.mp hstart
    obtain ⟨hzero, rfl, rfl⟩ | ⟨hset, hearly, rfl, rfl⟩ | ⟨hset, hdue, w, hw, rfl, rfl⟩ :=
      applyReduction_eq_ok.mp hst₁
    · exact ⟨rfl, {
        due_iff := ⟨nofun, fun hdue ↦ absurd hzero hdue.2.1⟩
        provisions_of_reduced := nofun
        provisions_of_not_reduced := fun _ ↦ rfl
        anchored := fun hset ↦ absurd hzero hset
        unanchored := fun _ ↦ (if_pos hstarted).symm }⟩
    · rw [word_sub_lt_iff hperiod] at hearly
      exact ⟨rfl, {
        due_iff := ⟨nofun, fun hdue ↦ absurd hdue.2.2 (Nat.not_le.mpr hearly)⟩
        provisions_of_reduced := nofun
        provisions_of_not_reduced := fun _ ↦ rfl
        anchored := fun _ ↦ rfl
        unanchored := fun hzero ↦ absurd hzero hset }⟩
    · rw [word_sub_lt_iff hperiod, Nat.not_lt] at hdue
      exact ⟨rfl, {
        due_iff := ⟨fun _ ↦ ⟨hstarted, hset, hdue⟩, fun _ ↦ rfl⟩
        provisions_of_reduced := fun _ ↦ hw
        provisions_of_not_reduced := nofun
        anchored := fun _ ↦ rfl
        unanchored := fun hzero ↦ absurd hzero hset }⟩

/-! ## Any heights -/

/-- The state after some blocks. -/
def stateAfter (st : EmissionState) : List Emission → EmissionState
  | [] => st
  | e :: es => stateAfter e.state es

/-- What blocks do to the provisions and to the count, whatever their heights are. -/
structure KeepsTime (p : Params) (st : EmissionState) (es : List Emission) : Prop where
  ticks : ∀ early e late, es = early ++ e :: late → Ticks p (stateAfter st early) e
  /-- A count that has been started is a period before every later reduction. -/
  sinceAnchor : ∀ early late, es = early ++ late → (stateAfter st early).lastReduction ≠ 0 →
    ∀ e ∈ late, e.reduced = true →
      (stateAfter st early).lastReduction.toNat + p.reductionPeriod.toNat ≤ e.height.toNat
  apart : (es.filter (·.reduced)).Pairwise fun e e' ↦
    e.height < e'.height ∧ e.height.toNat + p.reductionPeriod.toNat ≤ e'.height.toNat

/-- A count that has been started goes on, and the kept height does not go back. -/
theorem Ticks.lastReduction_ne_zero (h : Ticks p st e) (hset : st.lastReduction ≠ 0) :
    e.state.lastReduction ≠ 0 ∧ st.lastReduction.toNat ≤ e.state.lastReduction.toNat := by
  rw [h.anchored hset]
  split
  · rename_i hreduced
    obtain ⟨-, -, hle⟩ := h.due_iff.mp hreduced
    have hle' := Nat.le_trans (Nat.le_add_right _ _) hle
    refine ⟨fun hzero ↦ hset ?_, hle'⟩
    rw [hzero] at hle'
    exact UInt64.toNat_inj.mp (Nat.le_zero.mp hle')
  · exact ⟨hset, Nat.le_refl _⟩

theorem KeepsTime.nil (p : Params) (st : EmissionState) : KeepsTime p st [] :=
  ⟨by simp, by simp, .nil⟩

theorem KeepsTime.cons (hperiod : p.reductionPeriod ≠ 0) (h : Ticks p st e)
    (hes : KeepsTime p e.state es) : KeepsTime p st (e :: es) := by
  have hlate : e.state.lastReduction ≠ 0 → ∀ e' ∈ es, e'.reduced = true →
      e.state.lastReduction.toNat + p.reductionPeriod.toNat ≤ e'.height.toNat :=
    hes.sinceAnchor [] es rfl
  refine ⟨fun early e' late heq ↦ ?_, fun early late heq hset ↦ ?_, ?_⟩
  · cases early with
    | nil =>
      obtain ⟨rfl, -⟩ := List.cons_eq_cons.mp heq
      exact h
    | cons first early =>
      obtain ⟨rfl, hrest⟩ := List.cons_eq_cons.mp heq
      exact hes.ticks early e' late hrest
  · cases early with
    | nil =>
      obtain rfl : e :: es = late := heq
      obtain ⟨hset', hle⟩ := h.lastReduction_ne_zero hset
      refine List.forall_mem_cons.mpr ⟨fun hreduced ↦ (h.due_iff.mp hreduced).2.2, ?_⟩
      intro e' he' hreduced
      exact Nat.le_trans (Nat.add_le_add_right hle _) (hlate hset' e' he' hreduced)
    | cons first early =>
      obtain ⟨rfl, hrest⟩ := List.cons_eq_cons.mp heq
      exact hes.sinceAnchor early late hrest hset
  · cases hreduced : e.reduced with
    | false =>
      rw [List.filter_cons_of_neg (by simp [hreduced])]
      exact hes.apart
    | true =>
      rw [List.filter_cons_of_pos hreduced, List.pairwise_cons]
      refine ⟨fun e' he' ↦ ?_, hes.apart⟩
      obtain ⟨hmem, hreduced'⟩ := List.mem_filter.mp he'
      obtain ⟨-, hset, -⟩ := h.due_iff.mp hreduced
      -- the count was moved to the height of the reduction
      have hmoved : e.state.lastReduction = e.height := by rw [h.anchored hset, if_pos hreduced]
      have hle := hlate (h.lastReduction_ne_zero hset).1 e' hmem hreduced'
      rw [hmoved] at hle
      have hpos := toNat_period_pos hperiod
      exact ⟨UInt64.lt_iff_toNat_lt.mpr (by omega), hle⟩

/-- Blocks at any heights keep time. -/
theorem keepsTime_emissions (hp : p.validate = .ok ()) (st : EmissionState)
    (heights : List UInt64) : ∃ es final, emissions p st heights = .ok (es, final) ∧
      es.map (·.height) = heights ∧ KeepsTime p st es := by
  obtain ⟨-, -, -, hperiod, -⟩ := Params.validate_eq_ok.mp hp
  induction heights generalizing st with
  | nil => exact ⟨[], st, rfl, rfl, .nil p st⟩
  | cons height heights ih =>
    obtain ⟨e, he⟩ := exists_processBlock hp height st
    obtain ⟨hheight, hticks⟩ := ticks_processBlock hperiod he
    obtain ⟨es, final, hes, hheights, hkeeps⟩ := ih e.state
    refine ⟨e :: es, final, Keeper.emissions_cons_eq_ok.mpr ⟨e, es, rfl, he, hes⟩, ?_,
      hkeeps.cons hperiod hticks⟩
    rw [List.map_cons, hheight, hheights]

/-! ## Heights without a gap -/

/-- The provisions after a number of reductions. -/
def reductions (p : Params) : Nat → Decimal → Except ArithmeticOverflow Decimal
  | 0, v => .ok v
  | k + 1, v => reductions p k v >>= reducedProvisions p

/-- So many heights, one after the other. -/
def heightsFrom (first n : Nat) : List UInt64 := (List.range' first n).map UInt64.ofNat

/-- The height at which the count starts when no height from the first one on is left out. -/
def anchorFrom (p : Params) (first : Nat) : Nat := max (max first p.startBlock.toNat) 1

/-- A block on the schedule that starts at height `a` with provisions `v`: it reduces exactly at a
multiple of the period after that height, and its provisions have been reduced once for every period
that has passed. -/
structure OnSchedule (p : Params) (a : Nat) (v : Decimal) (e : Emission) : Prop where
  reduced_iff : e.reduced = true ↔
    ∃ k, 1 ≤ k ∧ e.height.toNat = a + k * p.reductionPeriod.toNat
  provisions : reductions p ((e.height.toNat - a) / p.reductionPeriod.toNat) v
    = .ok e.state.provisions

/-- The state before the block at height `h`: the count has not been started up to height `a`, and
after that it stands at the last multiple of the period. -/
structure StandsBefore (p : Params) (a : Nat) (v : Decimal) (h : Nat) (st : EmissionState) :
    Prop where
  unanchored : h ≤ a → st.lastReduction = 0 ∧ st.provisions = v
  anchored : a < h → ∃ k, st.lastReduction.toNat = a + k * p.reductionPeriod.toNat ∧
    a + k * p.reductionPeriod.toNat < h ∧ h ≤ a + (k + 1) * p.reductionPeriod.toNat ∧
    reductions p k v = .ok st.provisions

variable {a h k first : Nat}

/-- Up to the height at which the count starts, a block is on the schedule as one that reduces
nothing. -/
theorem onSchedule_of_le (hperiod : p.reductionPeriod ≠ 0) (hle : e.height.toNat ≤ a)
    (hreduced : e.reduced = false) : OnSchedule p a e.state.provisions e := by
  have hpos := toNat_period_pos hperiod
  constructor
  · rw [hreduced]
    refine ⟨nofun, fun ⟨k, hk, hheight⟩ ↦ ?_⟩
    have hmul := Nat.mul_pos hk hpos
    omega
  · rw [Nat.sub_eq_zero_of_le hle, Nat.zero_div]
    rfl

/-- Between two multiples of the period a block is on the schedule as one that reduces nothing. -/
theorem onSchedule_of_between (hlow : a + k * p.reductionPeriod.toNat < e.height.toNat)
    (hhigh : e.height.toNat < a + (k + 1) * p.reductionPeriod.toNat)
    (hreduced : e.reduced = false) (hprovisions : reductions p k v = .ok e.state.provisions) :
    OnSchedule p a v e := by
  constructor
  · rw [hreduced]
    refine ⟨nofun, fun ⟨j, _, hheight⟩ ↦ ?_⟩
    rw [hheight, Nat.add_lt_add_iff_left] at hlow hhigh
    have hlow' := Nat.lt_of_mul_lt_mul_right hlow
    have hhigh' := Nat.lt_of_mul_lt_mul_right hhigh
    omega
  · have hquotient : (e.height.toNat - a) / p.reductionPeriod.toNat = k :=
      Nat.div_eq_of_lt_le (by omega) (by omega)
    rwa [hquotient]

/-- At a multiple of the period a block is on the schedule as one that reduces. -/
theorem onSchedule_of_eq (hperiod : p.reductionPeriod ≠ 0)
    (hheight : e.height.toNat = a + (k + 1) * p.reductionPeriod.toNat) (hreduced : e.reduced = true)
    (hprovisions : reductions p (k + 1) v = .ok e.state.provisions) : OnSchedule p a v e := by
  constructor
  · exact ⟨fun _ ↦ ⟨k + 1, Nat.le_add_left 1 k, hheight⟩, fun _ ↦ hreduced⟩
  · rw [hheight, Nat.add_sub_cancel_left, Nat.mul_div_cancel _ (toNat_period_pos hperiod)]
    exact hprovisions

theorem startBlock_le_iff (hheight : e.height.toNat = h) :
    p.startBlock ≤ e.height ↔ p.startBlock.toNat ≤ h := by
  rw [UInt64.le_iff_toNat_le, hheight]

/-- The next block, before or at the height at which the count starts. -/
theorem StandsBefore.step_of_le (hstands : StandsBefore p (anchorFrom p first) v h st)
    (hperiod : p.reductionPeriod ≠ 0) (hfirst : first ≤ h) (hheight : e.height.toNat = h)
    (hticks : Ticks p st e) (hle : h ≤ anchorFrom p first) :
    OnSchedule p (anchorFrom p first) v e ∧
      StandsBefore p (anchorFrom p first) v (h + 1) e.state := by
  have hpos := toNat_period_pos hperiod
  have hstart := startBlock_le_iff (p := p) hheight
  obtain ⟨hzero, rfl⟩ := hstands.unanchored hle
  have hreduced : e.reduced = false := by
    rw [Bool.eq_false_iff]
    exact fun hreduced ↦ (hticks.due_iff.mp hreduced).2.1 hzero
  rw [← hticks.provisions_of_not_reduced hreduced]
  have hlast := hticks.unanchored hzero
  refine ⟨onSchedule_of_le hperiod (hheight.trans_le hle) hreduced, fun hlt ↦ ?_, fun hgt ↦ ?_⟩
  · -- the start block has not been reached, or this is height zero, which starts no count
    refine ⟨?_, rfl⟩
    rw [hlast]
    split
    · rename_i hreached
      rw [hstart] at hreached
      rw [anchorFrom] at hlt
      exact UInt64.toNat_inj.mp (hheight.trans (show h = 0 by omega))
    · rfl
  · have hreached : p.startBlock.toNat ≤ h := by
      rw [anchorFrom] at hgt
      omega
    rw [if_pos (hstart.mpr hreached)] at hlast
    rw [hlast]
    exact ⟨0, by omega, by omega, by omega, rfl⟩

/-- The next block, after the height at which the count starts. -/
theorem StandsBefore.step_of_lt (hstands : StandsBefore p (anchorFrom p first) v h st)
    (hperiod : p.reductionPeriod ≠ 0) (hheight : e.height.toNat = h) (hticks : Ticks p st e)
    (hlt : anchorFrom p first < h) : OnSchedule p (anchorFrom p first) v e ∧
      StandsBefore p (anchorFrom p first) v (h + 1) e.state := by
  have hpos := toNat_period_pos hperiod
  have hreached : p.startBlock.toNat ≤ anchorFrom p first :=
    Nat.le_trans (Nat.le_max_right _ _) (Nat.le_max_left _ _)
  have hstart : p.startBlock ≤ e.height :=
    (startBlock_le_iff hheight).mpr (Nat.le_of_lt (Nat.lt_of_le_of_lt hreached hlt))
  obtain ⟨k, hlast, hlow, hhigh, hprovisions⟩ := hstands.anchored hlt
  have hset : st.lastReduction ≠ 0 := by
    have hone : 1 ≤ anchorFrom p first := Nat.le_max_right _ _
    intro hzero
    rw [hzero, UInt64.toNat_zero] at hlast
    omega
  have hsucc (n : Nat) : (n + 1) * p.reductionPeriod.toNat
      = n * p.reductionPeriod.toNat + p.reductionPeriod.toNat := Nat.succ_mul _ _
  have hnext := hsucc k
  cases hreduced : e.reduced with
  | true =>
    obtain ⟨-, -, hdue⟩ := hticks.due_iff.mp hreduced
    have hboundary : e.height.toNat = anchorFrom p first + (k + 1) * p.reductionPeriod.toNat := by
      omega
    have hprovisions' : reductions p (k + 1) v = .ok e.state.provisions := by
      rw [reductions, hprovisions]
      exact hticks.provisions_of_reduced hreduced
    have hmoved : e.state.lastReduction = e.height := by
      rw [hticks.anchored hset, if_pos hreduced]
    have hnext' := hsucc (k + 1)
    refine ⟨onSchedule_of_eq hperiod hboundary hreduced hprovisions', fun hle ↦ ?_, fun _ ↦ ?_⟩
    · omega
    · rw [hmoved]
      exact ⟨k + 1, hboundary, by omega, by omega, hprovisions'⟩
  | false =>
    have hearly : h < anchorFrom p first + (k + 1) * p.reductionPeriod.toNat := by
      by_contra hdue
      rw [Bool.eq_false_iff] at hreduced
      exact hreduced (hticks.due_iff.mpr ⟨hstart, hset, by omega⟩)
    have hkept : e.state.lastReduction = st.lastReduction := by
      rw [hticks.anchored hset, hreduced]
      rfl
    rw [← hticks.provisions_of_not_reduced hreduced] at hprovisions
    refine ⟨onSchedule_of_between (by omega) (by omega) hreduced hprovisions, fun hle ↦ ?_,
      fun _ ↦ ?_⟩
    · omega
    · rw [hkept]
      exact ⟨k, hlast, by omega, by omega, hprovisions⟩

/-- A block at the next height is on the schedule, and so is the state after it. -/
theorem StandsBefore.step (hstands : StandsBefore p (anchorFrom p first) v h st)
    (hperiod : p.reductionPeriod ≠ 0) (hfirst : first ≤ h) (hheight : e.height.toNat = h)
    (hticks : Ticks p st e) : OnSchedule p (anchorFrom p first) v e ∧
      StandsBefore p (anchorFrom p first) v (h + 1) e.state := by
  rcases Nat.lt_or_ge (anchorFrom p first) h with hlt | hle
  · exact hstands.step_of_lt hperiod hheight hticks hlt
  · exact hstands.step_of_le hperiod hfirst hheight hticks hle

/-- Blocks that keep time at heights without a gap are on the schedule. -/
theorem onSchedule_of_ticks {n : Nat}
    (hticks : ∀ early e late, es = early ++ e :: late → Ticks p (stateAfter st early) e)
    (hperiod : p.reductionPeriod ≠ 0) (hheights : es.map (·.height) = heightsFrom h n)
    (hfirst : first ≤ h) (hn : h + n ≤ 1 <<< 64)
    (hstands : StandsBefore p (anchorFrom p first) v h st) :
    ∀ e ∈ es, OnSchedule p (anchorFrom p first) v e := by
  induction es generalizing st h n with
  | nil => exact fun e he ↦ absurd he List.not_mem_nil
  | cons e es ih =>
    cases n with
    | zero => exact nomatch hheights
    | succ n =>
      obtain ⟨hheight, hrest⟩ := List.cons_eq_cons.mp hheights
      have hword : e.height = UInt64.ofNat h := hheight
      have htoNat : e.height.toNat = h := by
        rw [hword]
        exact UInt64.toNat_ofNat_of_lt (Nat.lt_of_lt_of_le (Nat.lt_add_of_pos_right n.succ_pos) hn)
      obtain ⟨hschedule, hstands'⟩ :=
        hstands.step hperiod hfirst htoNat (hticks [] e es rfl)
      refine List.forall_mem_cons.mpr ⟨hschedule, ih (fun early e' late heq ↦ ?_) hrest
        (Nat.le_succ_of_le hfirst) (by omega) hstands'⟩
      exact hticks (e :: early) e' late (congrArg (e :: ·) heq)

/-- **When provisions are reduced.** From a state whose count has not been started, blocks at all
heights from one on reduce exactly at the multiples of the period after the height that starts the
count, the latest of the first height, the start block and one; and the provisions after the `k`-th
reduction are the first ones, reduced `k` times. Blocks at any heights keep time, also from any
other state. -/
theorem reductions_emissions (hp : p.validate = .ok ()) (st : EmissionState) :
    (st.lastReduction = 0 → ∀ first n, first + n ≤ 1 <<< 64 →
      ∃ es final, emissions p st (heightsFrom first n) = .ok (es, final) ∧
        es.map (·.height) = heightsFrom first n ∧
        ∀ e ∈ es, OnSchedule p (anchorFrom p first) st.provisions e) ∧
    ∀ heights, ∃ es final, emissions p st heights = .ok (es, final) ∧
      es.map (·.height) = heights ∧ KeepsTime p st es := by
  obtain ⟨-, -, -, hperiod, -⟩ := Params.validate_eq_ok.mp hp
  refine ⟨fun hzero first n hn ↦ ?_, keepsTime_emissions hp st⟩
  obtain ⟨es, final, hes, hheights, hkeeps⟩ := keepsTime_emissions hp st (heightsFrom first n)
  refine ⟨es, final, hes, hheights, ?_⟩
  -- the count has not been started, as the height that starts it is not below the first one
  refine onSchedule_of_ticks hkeeps.ticks hperiod hheights (Nat.le_refl first) hn
    ⟨fun _ ↦ ⟨hzero, rfl⟩, fun hlt ↦ ?_⟩
  rw [anchorFrom] at hlt
  omega

/-- Parameters with a start at block 2 and a reduction after every third block. -/
def everyThird : Params := { Params.standard with reductionPeriod := 3, startBlock := 2 }

/-- From height zero on the first blocks do nothing and the third one starts the count. Heights that
go back keep time as well. -/
theorem reductions_emissions_everyThird : ∃ es final es' final',
    emissions everyThird (.genesis everyThird .standard) (heightsFrom 0 12) = .ok (es, final) ∧
    (es.filter (·.reduced)).map (·.height) = [5, 8, 11] ∧
    (∀ e ∈ es, OnSchedule everyThird 2 (.ofNat 47000000) e) ∧
    emissions everyThird (.genesis everyThird .standard) [4, 9, 3, 9, 30] = .ok (es', final') ∧
    KeepsTime everyThird (.genesis everyThird .standard) es' := by
  have hvalid : everyThird.validate = .ok () := by decide +kernel
  obtain ⟨hregular, hany⟩ := reductions_emissions hvalid (.genesis everyThird .standard)
  obtain ⟨es, final, hes, -, hschedule⟩ := hregular rfl 0 12 (by decide)
  obtain ⟨es', final', hes', -, hkeeps⟩ := hany [4, 9, 3, 9, 30]
  have hheights : (emissions everyThird (.genesis everyThird .standard)
      (heightsFrom 0 12)).toOption.all
      fun r ↦ (r.1.filter (·.reduced)).map (·.height) = [5, 8, 11] := by decide +kernel
  rw [hes] at hheights
  exact ⟨es, final, es', final', hes, of_decide_eq_true hheights, hschedule, hes', hkeeps⟩

end Tokenomics
