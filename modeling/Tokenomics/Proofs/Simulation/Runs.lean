import Tokenomics.Proofs.Mint.Progress
import Tokenomics.Simulation.Run

/-!
# Runs of a simulation

A simulation that succeeds is a run of the keeper over its heights, on the standard book and from
the store that was prepared for it, with its blocks added up in a report (`simulate_eq_ok`). So what
is known about runs of the keeper is known about simulations, fresh and resumed ones alike.

`exists_simulate` says when a fresh one does succeed: the genesis is accepted, and the heights are
not so many that the supply could run full.
-/

namespace Tokenomics

open Keeper

/-! ## Heights -/

theorem height_processBlock {height : UInt64} {p : Params} {st : EmissionState} {e : Emission}
    (h : processBlock height p st = .ok e) : e.height = height := by
  obtain ⟨-, rfl⟩ | ⟨-, st₁, reduced, pools, -, -, rfl⟩ := processBlock_eq_ok.mp h
  · rfl
  · rfl

/-- The emissions of a run are those at its heights, one for each. -/
theorem Keeper.heights_runBlocks {s s' : Store} {l l' : Ledger} {heights : List UInt64}
    {es : List Emission} (h : runBlocks s l heights = .ok (es, s', l')) :
    es.map (·.height) = heights := by
  induction heights generalizing s l es with
  | nil =>
    obtain ⟨rfl, -, -⟩ := runBlocks_nil_eq_ok.mp h
    rfl
  | cons height heights ih =>
    obtain ⟨e, es, s₁, l₁, rfl, hblock, hrest⟩ := runBlocks_cons_eq_ok.mp h
    obtain ⟨p, st, view, -, -, he, -⟩ := endBlock_eq_ok.mp hblock
    rw [List.map_cons, height_processBlock he, ih hrest]

namespace Settings

variable (c : Settings)

theorem length_heights : c.heights.length = c.endHeight.toNat + 1 - c.startHeight.toNat := by
  rw [heights, List.length_map, List.length_range']

/-- The heights go up. -/
theorem pairwise_heights : c.heights.Pairwise (· < ·) := by
  rw [heights, List.pairwise_map]
  refine List.Pairwise.imp_of_mem (fun {m n} _ hn hlt ↦ ?_) List.pairwise_lt_range'
  have hend : c.endHeight.toNat < UInt64.size := c.endHeight.toNat_lt
  have hrange := List.mem_range'_1.mp hn
  rw [UInt64.lt_iff_toNat_lt, UInt64.toNat_ofNat_of_lt' (by omega),
    UInt64.toNat_ofNat_of_lt' (by omega)]
  exact hlt

end Settings

namespace Simulation

variable {s s' s₀ : Store} {l l' : Ledger} {g : Genesis} {c : Settings} {r r' : Report}
  {p : Params} {heights : List UInt64}

/-! ## The store -/

/-- A store with a state is taken as it is. -/
theorem prepare_of_ok {st : EmissionState} (h : Keeper.state s = .ok st) (g : Genesis) :
    prepare s g = (s, .ok ()) := by
  rw [prepare, h]

/-- A store without a state gets the genesis. -/
theorem prepare_eq_ok_of_missing {key : String} (h : Keeper.state s = .error (.missingRecord key)) :
    prepare s g = (s₀, .ok ()) ↔ initGenesis s g = (s₀, .ok ()) := by
  rw [prepare, h]
  show ((initGenesis s g).1, (initGenesis s g).2.mapError RunError.mint) = (s₀, .ok ()) ↔ _
  rw [Prod.ext_iff, Prod.ext_iff, mapError_eq_ok]

/-! ## The blocks -/

theorem processHeights_eq_ok : processHeights s l r heights = (s', .ok (l', r')) ↔
    ∃ es, runBlocks s l heights = .ok (es, s', l') ∧ r' = es.foldl Report.addBlock r := by
  induction heights generalizing s l r with
  | nil =>
    constructor
    · intro h
      obtain ⟨rfl, h⟩ := Prod.ext_iff.mp h
      obtain ⟨rfl, rfl⟩ := Prod.ext_iff.mp (Except.ok.inj h)
      exact ⟨[], rfl, rfl⟩
    · rintro ⟨es, hrun, rfl⟩
      obtain ⟨rfl, rfl, rfl⟩ := runBlocks_nil_eq_ok.mp hrun
      rfl
  | cons height heights ih =>
    rw [processHeights]
    constructor
    · intro h
      split at h
      · rename_i e s₁ l₁ hblock
        obtain ⟨es, hrun, rfl⟩ := ih.mp h
        exact ⟨e :: es, runBlocks_cons_eq_ok.mpr ⟨e, es, s₁, l₁, rfl, hblock, hrun⟩, rfl⟩
      · exact nomatch (Prod.ext_iff.mp h).2
    · rintro ⟨es, hrun, rfl⟩
      obtain ⟨e, es, s₁, l₁, rfl, hblock, hrest⟩ := runBlocks_cons_eq_ok.mp hrun
      rw [hblock]
      exact ih.mpr ⟨es, hrest, rfl⟩

theorem conclude_eq_ok {denom : String} : conclude s l denom r = .ok r' ↔
    ∃ st, Keeper.state s = .ok st ∧ r' = r.finish st (l.supply denom) := by
  rw [conclude, bind_eq_ok]
  refine exists_congr fun st ↦ ?_
  rw [mapError_eq_ok]
  exact and_congr_right fun _ ↦ ⟨fun h ↦ (Except.ok.inj h).symm, fun h ↦ congrArg _ h.symm⟩

/-! ## The whole run -/

/-- What a simulation that succeeds is. -/
theorem simulate_eq_ok : simulate s g c = (s', .ok r) ↔
    ∃ s₀ p es s₁ l st, prepare s g = (s₀, .ok ()) ∧ Keeper.params s₀ = .ok p ∧
      runBlocks s₀ (.book .standard) c.heights = .ok (es, s₁, l) ∧ Keeper.state s₁ = .ok st ∧
      s' = s₁.flush ∧
      r = (es.foldl Report.addBlock (.start c.startHeight c.endHeight)).finish st
        (l.supply p.denom) := by
  rw [simulate]
  constructor
  · intro h
    split at h
    · exact nomatch (Prod.ext_iff.mp h).2
    rename_i s₀ hprepare
    split at h
    · exact nomatch (Prod.ext_iff.mp h).2
    rename_i p hp
    split at h
    · exact nomatch (Prod.ext_iff.mp h).2
    rename_i s₁ l r₁ hheights
    obtain ⟨hflush, hconclude⟩ := Prod.ext_iff.mp h
    obtain ⟨es, hrun, rfl⟩ := processHeights_eq_ok.mp hheights
    obtain ⟨st, hst, rfl⟩ := conclude_eq_ok.mp hconclude
    exact ⟨s₀, p, es, s₁, l, st, hprepare, hp, hrun, hst, hflush.symm, rfl⟩
  · rintro ⟨s₀, p, es, s₁, l, st, hprepare, hp, hrun, hst, rfl, rfl⟩
    rw [hprepare]
    dsimp only
    rw [hp]
    dsimp only
    rw [processHeights_eq_ok.mpr ⟨es, hrun, rfl⟩]
    exact Prod.ext_iff.mpr ⟨rfl, conclude_eq_ok.mpr ⟨st, hst, rfl⟩⟩

/-- From a store without a state, and from a genesis that is accepted, a simulation succeeds as long
as the supply has room for all that its blocks could emit. -/
theorem exists_simulate (hfresh : Keeper.state s = .error (.missingRecord stateKey))
    (hg : initGenesis s g = (s₀, .ok ())) (hentries : g.params.entryCount < 1 <<< 62)
    (hroom : c.heights.length * blockBound g.params < 1 <<< 128) :
    ∃ s' r, simulate s g c = (s', .ok r) ∧ Keeper.params s' = .ok g.params.unsigned := by
  obtain ⟨hvalid, -⟩ := initGenesis_eq_ok.mp hg
  have hp := Params.validate_unsigned (Genesis.validate_eq_ok.mp hvalid).1
  have hready := ready_initGenesis hg
  have hsupply : (Book.standard.supply g.params.unsigned.denom).toNat
      + c.heights.length * blockBound g.params.unsigned < 1 <<< 128 := by
    rw [supply_standard]
    exact (Nat.zero_add _).trans_lt hroom
  obtain ⟨es, s₁, b, hrun⟩ := exists_runBlocks hready fit_standard hp hentries hsupply
  obtain ⟨st, -, hready₁, -⟩ := hready.runBlocks fit_standard hrun
  refine ⟨s₁.flush, _, simulate_eq_ok.mpr ⟨s₀, g.params.unsigned, es, s₁, .book b, st,
    (prepare_eq_ok_of_missing hfresh).mpr hg, hready.params, hrun, hready₁.state, rfl, rfl⟩, ?_⟩
  rw [params_flush]
  exact hready₁.params

end Simulation

end Tokenomics
