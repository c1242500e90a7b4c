import Tokenomics.Proofs.Decimal.Shrinking
import Tokenomics.Proofs.Mint.Distribution
import Tokenomics.Proofs.Mint.PaidMonths

/-!
# Provisions along a run

The reduction factor of valid parameters lies between zero and one, and so do the shares of the
pools. So no product in a block overflows, whatever the state is (`exists_processBlock`), and a
block leaves the provisions as they are or reduces them to valid ones that are not larger
(`lowered_processBlock`). The other calls to the keeper leave them alone. Between any two points of
a run that starts from a valid genesis the provisions have therefore gone down at most, and only by
blocks that say so (`provisions_run`).

The parameters may change on the way, so the invariant of the induction speaks of those that were
accepted last (`Point.Provides`).
-/

namespace Tokenomics

variable {height : UInt64} {p : Params} {st : EmissionState} {e : Emission} {u v w : Decimal}

/-! ## One reduction -/

theorem factor_mem_Icc (h : p.validate = .ok ()) : p.reductionFactor.value ∈ Set.Icc (0 : ℚ) 1 := by
  obtain ⟨-, -, -, -, hfactor, -⟩ := Params.validate_eq_ok.mp h
  obtain ⟨hzero, hone⟩ := not_or.mp hfactor
  rw [Decimal.lt_iff, Decimal.value_one, not_lt] at hone
  exact ⟨Decimal.not_lt_zero_iff.mp hzero, hone⟩

/-- Provisions that a genesis may have. -/
structure ValidProvisions (v : Decimal) : Prop where
  nonneg : 0 ≤ v.value
  precision : v.fractionDigits ≤ provisionsPlaces

theorem ValidProvisions.unsignedZero (h : ValidProvisions v) : ValidProvisions v.unsignedZero :=
  ⟨h.nonneg.trans_eq (Decimal.value_unsignedZero v).symm, h.precision⟩

theorem checkPrecision_eq_ok : checkPrecision v = .ok () ↔ v.fractionDigits ≤ provisionsPlaces := by
  rw [checkPrecision]
  split
  · rename_i habove
    exact ⟨fun h ↦ (nomatch h), fun h ↦ absurd habove (Nat.not_lt.mpr h)⟩
  · rename_i hle
    exact ⟨fun _ ↦ Nat.not_lt.mp hle, fun _ ↦ rfl⟩

/-- What a genesis that breaks no rule satisfies. -/
theorem Genesis.validate_eq_ok {g : Genesis} : g.validate = .ok () ↔
    g.params.validate = .ok () ∧ ValidProvisions g.state.provisions ∧
      g.state.cursor.period ≠ 0 := by
  have hcursor : g.state.cursor.validate = .ok () ↔ g.state.cursor.period ≠ 0 := by
    rw [MonthCursor.validate]
    split
    · rename_i hzero
      exact ⟨fun h ↦ (nomatch h), fun hne ↦ absurd hzero hne⟩
    · rename_i hne
      exact ⟨fun _ ↦ hne, fun _ ↦ rfl⟩
  rw [validate, check_bind_eq_ok, throw_if_eq_ok, check_bind_eq_ok, hcursor, checkPrecision_eq_ok,
    Decimal.not_lt_zero_iff]
  constructor
  · rintro ⟨hp, hsign, hprecision, hperiod⟩
    exact ⟨hp, ⟨hsign, hprecision⟩, hperiod⟩
  · rintro ⟨hp, ⟨hsign, hprecision⟩, hperiod⟩
    exact ⟨hp, hsign, hprecision, hperiod⟩

theorem Genesis.validProvisions {g : Genesis} (h : g.validate = .ok ()) :
    ValidProvisions g.state.provisions :=
  (validate_eq_ok.mp h).2.1

/-- A reduction always has a result, and of provisions that are not negative it makes valid ones
that are not larger. -/
theorem exists_reducedProvisions (hp : p.reductionFactor.value ∈ Set.Icc (0 : ℚ) 1) (v : Decimal) :
    ∃ w, reducedProvisions p v = .ok w ∧
      (0 ≤ v.value → ValidProvisions w ∧ w.value ≤ v.value) := by
  obtain ⟨c, hc, hbounds⟩ := Decimal.exists_mul?_le v hp.1 hp.2
  have hmul : v.mul p.reductionFactor = .ok c := by
    rw [Decimal.mul, hc]
  refine ⟨c.truncateTo provisionsPlaces, ?_, fun hv ↦ ?_⟩
  · rw [reducedProvisions, hmul]
    rfl
  · obtain ⟨hnonneg, hle⟩ := hbounds hv
    obtain ⟨hnonneg', hle'⟩ := Decimal.value_truncateTo provisionsPlaces hnonneg
    have hprecision := Nat.le_trans (Decimal.fractionDigits_le_scale _)
      (Decimal.scale_truncateTo_le provisionsPlaces c)
    exact ⟨⟨hnonneg', hprecision⟩, hle'.trans hle⟩

/-- What becomes of provisions `v`: valid ones that are not larger, and without a reduction the
same. -/
structure Lowered (v w : Decimal) (reduced : Prop) : Prop where
  valid : ValidProvisions w
  le : w.value ≤ v.value
  reduced_of_ne : w ≠ v → reduced

theorem Lowered.refl (hv : ValidProvisions v) (reduced : Prop) : Lowered v v reduced :=
  ⟨hv, le_rfl, fun hne ↦ absurd rfl hne⟩

theorem Lowered.trans {reduced reduced' : Prop} (h : Lowered u v reduced)
    (h' : Lowered v w reduced') : Lowered u w (reduced ∨ reduced') := by
  refine ⟨h'.valid, h'.le.trans h.le, fun hne ↦ ?_⟩
  by_cases heq : v = u
  · exact .inr (h'.reduced_of_ne fun heq' ↦ hne (heq'.trans heq))
  · exact .inl (h.reduced_of_ne heq)

/-! ## One block -/

/-- The provisions after a block. -/
theorem lowered_processBlock (hp : p.reductionFactor.value ∈ Set.Icc (0 : ℚ) 1)
    (hv : ValidProvisions st.provisions) (h : processBlock height p st = .ok e) :
    Lowered st.provisions e.state.provisions (e.reduced = true) := by
  obtain ⟨-, rfl⟩ | ⟨-, st₁, reduced, pools, hst₁, -, rfl⟩ := processBlock_eq_ok.mp h
  · exact .refl hv _
  · show Lowered st.provisions st₁.provisions (reduced = true)
    obtain ⟨-, rfl, rfl⟩ | ⟨-, -, rfl, rfl⟩ | ⟨-, -, w, hw, rfl, rfl⟩ :=
      applyReduction_eq_ok.mp hst₁
    · exact .refl hv _
    · exact .refl hv _
    · obtain ⟨w', hw', hlowered⟩ := exists_reducedProvisions hp st.provisions
      obtain rfl : w' = w := Except.ok.inj (hw'.symm.trans hw)
      obtain ⟨hvalid, hle⟩ := hlowered hv.nonneg
      exact ⟨hvalid, hle, fun _ ↦ rfl⟩

/-- With valid parameters every block can be processed, even from a state with negative
provisions. -/
theorem exists_processBlock (hp : p.validate = .ok ()) (height : UInt64) (st : EmissionState) :
    ∃ e, processBlock height p st = .ok e := by
  by_cases hstart : height < p.startBlock
  · exact ⟨_, processBlock_eq_ok.mpr (.inl ⟨hstart, rfl⟩)⟩
  obtain ⟨st₁, reduced, hst₁⟩ : ∃ st₁ reduced, applyReduction height p st = .ok (st₁, reduced) := by
    obtain ⟨w, hw, -⟩ := exists_reducedProvisions (factor_mem_Icc hp) st.provisions
    by_cases hfirst : st.lastReduction = 0
    · exact ⟨_, _, applyReduction_eq_ok.mpr (.inl ⟨hfirst, rfl, rfl⟩)⟩
    · by_cases hearly : Word.sub height st.lastReduction < p.reductionPeriod
      · exact ⟨_, _, applyReduction_eq_ok.mpr (.inr (.inl ⟨hfirst, hearly, rfl, rfl⟩))⟩
      · exact ⟨_, _, applyReduction_eq_ok.mpr (.inr (.inr ⟨hfirst, hearly, w, hw, rfl, rfl⟩))⟩
  obtain ⟨payments, hpayments⟩ : ∃ payments,
      Pool.all.mapM (poolPayment p st₁.provisions) = .ok payments := by
    refine exists_mapM_eq_ok fun pool _ ↦ ?_
    obtain ⟨c, hc, -⟩ := Decimal.exists_mul?_le st₁.provisions (share_nonneg hp pool)
      (share_le_one hp pool)
    exact ⟨_, poolPayment_eq_ok.mpr ⟨c, by rw [Decimal.mul, hc], rfl⟩⟩
  exact ⟨_, processBlock_eq_ok.mpr (.inr ⟨hstart, st₁, reduced, _, hst₁,
    poolPayments_eq_ok.mpr ⟨payments, hpayments, rfl⟩, rfl⟩)⟩

namespace Keeper

/-! ## One call -/

variable {s s' : Store} {c : Point}

/-- The keeper provides `v`: its records are readable, with these provisions in the state, and a
reduction does not enlarge them. -/
structure Point.Provides (c : Point) (v : Decimal) : Prop where
  factor : c.params.reductionFactor.value ∈ Set.Icc (0 : ℚ) 1
  reads : ∃ st, c.Reads st ∧ st.provisions = v
  unsigned : v.unsignedZero = v
  valid : ValidProvisions v

/-- A genesis that was written leaves the keeper with the provisions of the genesis. -/
theorem provides_initGenesis {g : Genesis} (hg : initGenesis s g = (s', .ok ())) :
    Point.Provides ⟨g.params, s'⟩ g.state.provisions.unsignedZero := by
  obtain ⟨hvalid, -⟩ := initGenesis_eq_ok.mp hg
  refine ⟨factor_mem_Icc (check_bind_eq_ok.mp hvalid).1, ⟨_, reads_initGenesis hg, rfl⟩, ?_, ?_⟩
  · exact Decimal.unsignedZero_unsignedZero _
  · exact (Genesis.validProvisions hvalid).unsignedZero

/-- Some of the blocks reduced the provisions. -/
def SomeReduced (blocks : List Block) : Prop := ∃ b ∈ blocks, b.emission.reduced = true

/-- One call lowers the provisions at most, and then it is a block that says so. -/
theorem Point.Provides.step (h : c.Provides v) (call : Call) :
    ∃ w, Lowered v w (SomeReduced (Keeper.step c call).1) ∧
      (Keeper.step c call).2.Provides w := by
  obtain ⟨st, hreads, rfl⟩ := h.reads
  obtain ⟨height, e, s', he, hstep, hreads'⟩ | ⟨p, s', rfl, hvalid, hstep, hreads'⟩ |
    ⟨s', hstep, hreads'⟩ := hreads.step_cases call
  · have hfactor : c.params.unsigned.reductionFactor.value ∈ Set.Icc (0 : ℚ) 1 := by
      show c.params.reductionFactor.unsignedZero.value ∈ _
      rw [Decimal.value_unsignedZero]
      exact h.factor
    have hlowered := lowered_processBlock hfactor h.valid he
    have hvalid := hlowered.valid.unsignedZero
    rw [hstep]
    refine ⟨e.state.provisions.unsignedZero, ⟨hvalid, ?_, fun hne ↦ ?_⟩, h.factor,
      ⟨_, hreads', rfl⟩, Decimal.unsignedZero_unsignedZero _, hvalid⟩
    · rw [Decimal.value_unsignedZero]
      exact hlowered.le
    · refine ⟨_, List.mem_singleton_self _, hlowered.reduced_of_ne fun heq ↦ hne ?_⟩
      -- the stored provisions have no sign of a zero that could get lost
      rw [heq, h.unsigned]
  · rw [hstep]
    exact ⟨_, .refl h.valid _, factor_mem_Icc hvalid, ⟨st, hreads', rfl⟩, h.unsigned, h.valid⟩
  · rw [hstep]
    exact ⟨_, .refl h.valid _, h.factor, ⟨st, hreads', rfl⟩, h.unsigned, h.valid⟩

/-! ## Runs of calls -/

theorem someReduced_append {blocks blocks' : List Block} :
    SomeReduced (blocks ++ blocks') ↔ SomeReduced blocks ∨ SomeReduced blocks' := by
  simp only [SomeReduced, List.mem_append, or_and_right, exists_or]

/-- Along a run the provisions go down at most. -/
theorem lowered_run (h : c.Provides v) (calls : List Call) :
    ∃ w, Lowered v w (SomeReduced (run c calls).1) ∧ (run c calls).2.Provides w := by
  induction calls generalizing c v with
  | nil => exact ⟨v, .refl h.valid _, h⟩
  | cons call calls ih =>
    obtain ⟨u, hfirst, hprovides⟩ := h.step call
    obtain ⟨w, hrest, hprovides'⟩ := ih hprovides
    refine ⟨w, ?_, hprovides'⟩
    rw [run_cons, someReduced_append]
    exact hfirst.trans hrest

/-- **Provisions never grow.** From a valid genesis on, at any two points of a run the stored
provisions are valid, and those at the later point are at most those at the earlier one, and the
same unless a block in between has reduced them. One call is the case of points that follow each
other. -/
theorem provisions_run {g : Genesis} (hg : initGenesis s g = (s', .ok ()))
    (early calls : List Call) : ∃ st st',
      state (run ⟨g.params, s'⟩ early).2.store = .ok st ∧
      state (run ⟨g.params, s'⟩ (early ++ calls)).2.store = .ok st' ∧
      ValidProvisions st.provisions ∧
      Lowered st.provisions st'.provisions
        (SomeReduced (run (run ⟨g.params, s'⟩ early).2 calls).1) := by
  obtain ⟨v, hearly, hprovides⟩ := lowered_run (provides_initGenesis hg) early
  obtain ⟨w, hlowered, hprovides'⟩ := lowered_run hprovides calls
  obtain ⟨st, hreads, rfl⟩ := hprovides.reads
  obtain ⟨st', hreads', rfl⟩ := hprovides'.reads
  rw [run_append]
  exact ⟨st, st', hreads.state, hreads'.state, hearly.valid, hlowered⟩

/-- A genesis with less than a unit to emit in a block, and a reduction due after some blocks. -/
def dueReduction : Genesis := ⟨.standard, ⟨.hundredths 75, 10, .standard⟩⟩

/-- A block that comes late enough reduces the provisions. -/
theorem provisions_run_reducing : ∃ s st st', initGenesis .empty dueReduction = (s, .ok ()) ∧
    state s = .ok st ∧
    state (run ⟨.standard, s⟩ [.endBlock (.book .standard) 7000000]).2.store = .ok st' ∧
    st'.provisions ≠ st.provisions ∧
    Lowered st.provisions st'.provisions
      (SomeReduced (run ⟨.standard, s⟩ [.endBlock (.book .standard) 7000000]).1) := by
  have hvalid : dueReduction.validate = .ok () := by decide +kernel
  obtain ⟨s, hinit⟩ : ∃ s, initGenesis .empty dueReduction = (s, .ok ()) :=
    ⟨_, initGenesis_eq_ok.mpr ⟨hvalid, _, _, rfl, rfl, rfl⟩⟩
  let r : Records := ⟨.standard, dueReduction.state.unsigned, ∅⟩
  have hkeeps : Point.Keeps ⟨.standard, s⟩ r := keeps_initGenesis hinit
  obtain ⟨-, hkeeps'⟩ := hkeeps.run [.endBlock (.book .standard) 7000000]
  have hchanges : (r.run [.endBlock (.book .standard) 7000000]).2.state.provisions
      ≠ r.state.provisions := by
    decide +kernel
  obtain ⟨st, st', hbefore, hafter, -, hlowered⟩ :=
    provisions_run hinit [] [.endBlock (.book .standard) 7000000]
  obtain rfl : r.state = st := Except.ok.inj (hkeeps.reads.state.symm.trans hbefore)
  obtain rfl := Except.ok.inj (hkeeps'.reads.state.symm.trans hafter)
  exact ⟨s, _, _, hinit, hbefore, hafter, hchanges, hlowered⟩

end Keeper

end Tokenomics
