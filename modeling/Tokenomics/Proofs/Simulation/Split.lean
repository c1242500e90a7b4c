import Tokenomics.Proofs.Simulation.Balances

/-!
# Simulations in two parts

A simulation can be broken off at any height and taken up again from its store, and what the two
runs report adds up to what one run would have reported (`simulate_split`).

The second run starts on a new ledger, where nothing has been supplied and nobody has anything. All
it knows of the first one are the records of its store, which hold all that the emissions depend
on, and nothing is lost in reading them a second time. So it has the emissions that the rest of the
single run had. Its ledger has room for them, because that of the single run had room for more.
-/

namespace Tokenomics

open Keeper

/-! ## Reports that add up -/

section Sums

variable {name? : Payment → Option String} {xs ys : List Payment}
  {m m₁ m₂ : SortedMap String Amount}

theorem SumsUp.sumUnder_append (h : SumsUp name? (xs ++ ys) m) (h₁ : SumsUp name? xs m₁)
    (h₂ : SumsUp name? ys m₂) (name : String) :
    Tokenomics.sumUnder m name = Tokenomics.sumUnder m₁ name + Tokenomics.sumUnder m₂ name := by
  rw [h.sumUnder, h₁.sumUnder, h₂.sumUnder, List.filter_append, unitsOf_append]

theorem SumsUp.contains_append (h : SumsUp name? (xs ++ ys) m) (h₁ : SumsUp name? xs m₁)
    (h₂ : SumsUp name? ys m₂) (name : String) :
    m.contains name = (m₁.contains name || m₂.contains name) := by
  rw [h.contains, h₁.contains, h₂.contains, List.any_append]

end Sums

namespace Report

variable {r r₁ r₂ : Report} {es₁ es₂ : List Emission}

/-- What two reports say adds up to what a third one says: the counts and the sums under each name
are added, the reductions follow each other, and the final state is that of the later one. -/
structure AddsUp (r₁ r₂ r : Report) : Prop where
  blocks : r.blocks = r₁.blocks + r₂.blocks
  reductions : r.reductions = r₁.reductions ++ r₂.reductions
  minted : r.minted.toNat = r₁.minted.toNat + r₂.minted.toNat
  supply : r.supply.toNat = r₁.supply.toNat + r₂.supply.toNat
  byAllocation : ∀ name,
    sumUnder r.byAllocation name = sumUnder r₁.byAllocation name + sumUnder r₂.byAllocation name
  vested : ∀ name, sumUnder r.vested name = sumUnder r₁.vested name + sumUnder r₂.vested name
  /-- A name has an entry when it has one in either. -/
  allocations : ∀ name,
    r.byAllocation.contains name = (r₁.byAllocation.contains name || r₂.byAllocation.contains name)
  vestedNames : ∀ name,
    r.vested.contains name = (r₁.vested.contains name || r₂.vested.contains name)
  finalState : r.finalState = r₂.finalState

/-- Reports about blocks that follow each other add up. -/
theorem addsUp_of_covers (h : r.Covers (es₁ ++ es₂) ∧ r.supply = r.minted)
    (h₁ : r₁.Covers es₁ ∧ r₁.supply = r₁.minted) (h₂ : r₂.Covers es₂ ∧ r₂.supply = r₂.minted)
    (hfinal : r.finalState = r₂.finalState) : AddsUp r₁ r₂ r := by
  obtain ⟨⟨haccounts, hblocks, hreductions⟩, hsupply⟩ := h
  obtain ⟨⟨haccounts₁, hblocks₁, hreductions₁⟩, hsupply₁⟩ := h₁
  obtain ⟨⟨haccounts₂, hblocks₂, hreductions₂⟩, hsupply₂⟩ := h₂
  rw [List.flatMap_append] at haccounts
  have hminted : r.minted.toNat = r₁.minted.toNat + r₂.minted.toNat := by
    rw [haccounts.minted, haccounts₁.minted, haccounts₂.minted, unitsOf_append]
  exact {
    blocks := by rw [hblocks, hblocks₁, hblocks₂, List.length_append]
    reductions := by
      rw [hreductions, hreductions₁, hreductions₂, List.filter_append, List.map_append]
    minted := hminted
    supply := by rw [hsupply, hsupply₁, hsupply₂, hminted]
    byAllocation := haccounts.byAllocation.sumUnder_append haccounts₁.byAllocation
      haccounts₂.byAllocation
    vested := haccounts.vested.sumUnder_append haccounts₁.vested haccounts₂.vested
    allocations := haccounts.byAllocation.contains_append haccounts₁.byAllocation
      haccounts₂.byAllocation
    vestedNames := haccounts.vested.contains_append haccounts₁.vested haccounts₂.vested
    finalState := hfinal }

end Report

/-! ## The two runs -/

/-- The heights up to one of them, and those after it. -/
theorem Settings.heights_split {c : Settings} {mid : UInt64} (hstart : c.startHeight ≤ mid)
    (hmid : mid < c.endHeight) : c.heights
      = Settings.heights { c with endHeight := mid }
        ++ Settings.heights { c with startHeight := mid + 1 } := by
  have hend := c.endHeight.toNat_lt
  have hnext := Word.toNat_succ hmid
  rw [UInt64.le_iff_toNat_le] at hstart
  rw [UInt64.lt_iff_toNat_lt] at hmid
  have hrange := List.range'_append_1 (s := c.startHeight.toNat)
    (m := mid.toNat + 1 - c.startHeight.toNat) (n := c.endHeight.toNat + 1 - (mid.toNat + 1))
  rw [show c.startHeight.toNat + (mid.toNat + 1 - c.startHeight.toNat) = mid.toNat + 1 by omega,
    show mid.toNat + 1 - c.startHeight.toNat + (c.endHeight.toNat + 1 - (mid.toNat + 1))
      = c.endHeight.toNat + 1 - c.startHeight.toNat by omega] at hrange
  rw [heights, heights, heights, ← List.map_append, hnext, hrange]

namespace Simulation

variable {s s' : Store} {g : Genesis} {c : Settings} {r : Report} {mid : UInt64}

/-- **A simulation may be split.** When a simulation of a fresh store goes through, then it does so
up to any height before the last one, and from there the store it leaves can be taken up by another
simulation, with whatever genesis, that goes through to the end. The two reports add up to that of
the single run. -/
theorem simulate_split (hfresh : Keeper.state s = .error (.missingRecord stateKey))
    (hentries : g.params.entryCount < 1 <<< 62) (hstart : c.startHeight ≤ mid)
    (hmid : mid < c.endHeight) (h : simulate s g c = (s', .ok r)) (g' : Genesis) :
    ∃ s₁ r₁ s₂ r₂, simulate s g { c with endHeight := mid } = (s₁, .ok r₁) ∧
      simulate s₁ g' { c with startHeight := mid + 1 } = (s₂, .ok r₂) ∧
      r₁.AddsUp r₂ r := by
  obtain ⟨s₀, p, es, t, l, st, hprepare, hp, hrun, hst, -, hr⟩ := simulate_eq_ok.mp h
  have hinit := (prepare_eq_ok_of_missing hfresh).mp hprepare
  have hready := ready_initGenesis hinit
  obtain rfl : g.params.unsigned = p := Except.ok.inj (hready.params.symm.trans hp)
  have hvalid : g.params.unsigned.validate = .ok () :=
    Params.validate_unsigned (Genesis.validate_eq_ok.mp (initGenesis_eq_ok.mp hinit).1).1
  rw [Settings.heights_split hstart hmid] at hrun
  obtain ⟨es₁, es₂, t₁, l₁, rfl, hrun₁, hrun₂⟩ := runBlocks_append.mp hrun
  obtain ⟨st₁, b₁, hready₁, rfl, hfit₁⟩ := hready.runBlocks fit_standard hrun₁
  -- the rest of the run, on a book that has supplied nothing yet
  have hsupply : (Book.standard.supply g.params.unsigned.denom).toNat
      ≤ (b₁.supply g.params.unsigned.denom).toNat := by
    rw [supply_standard]
    exact Nat.zero_le _
  obtain ⟨t₂, b₂, hagain, hstate⟩ :=
    runBlocks_again hready₁ hfit₁ hready₁.flush fit_standard hvalid hentries hsupply hrun₂
  have hfirst := simulate_eq_ok.mpr ⟨s₀, _, es₁, t₁, .book b₁, st₁, hprepare, hp, hrun₁,
    hready₁.state, rfl, rfl⟩
  have hsecond := simulate_eq_ok.mpr ⟨t₁.flush, _, es₂, t₂, .book b₂, st,
    prepare_of_ok hready₁.flush.state g', hready₁.flush.params, hagain, hstate.trans hst, rfl, rfl⟩
  have hfinal : r.finalState = some st := by
    rw [hr]
    rfl
  have hcovers := Report.covers_of_runBlocks hp hentries hrun _ _ st hr
  have hcovers₁ := Report.covers_of_runBlocks hp hentries hrun₁ c.startHeight mid st₁ rfl
  have hcovers₂ := Report.covers_of_runBlocks hready₁.flush.params hentries hagain (mid + 1)
    c.endHeight st rfl
  exact ⟨_, _, _, _, hfirst, hsecond, Report.addsUp_of_covers hcovers hcovers₁ hcovers₂ hfinal⟩

/-- Seven heights in two parts, the second with another genesis, of which nothing is used. -/
theorem simulate_split_sevenHeights : ∃ s r s₁ r₁ s₂ r₂,
    simulate .empty sharedVesting sevenHeights = (s, .ok r) ∧
    simulate .empty sharedVesting { sevenHeights with endHeight := 3 } = (s₁, .ok r₁) ∧
    simulate s₁ .standard { sevenHeights with startHeight := 4 } = (s₂, .ok r₂) ∧
    r₁.AddsUp r₂ r := by
  have hvalid : sharedVesting.validate = .ok () := by decide +kernel
  have hinit : initGenesis .empty sharedVesting = (_, .ok ()) :=
    initGenesis_eq_ok.mpr ⟨hvalid, _, _, rfl, rfl, rfl⟩
  obtain ⟨s, r, hrun, -⟩ := exists_simulate (c := sevenHeights) rfl hinit (by decide) (by decide)
  have hstart : sevenHeights.startHeight ≤ 3 := by decide
  obtain ⟨s₁, r₁, s₂, r₂, hfirst, hsecond, hsum⟩ :=
    simulate_split rfl (by decide) hstart (by decide) hrun .standard
  exact ⟨s, r, s₁, r₁, s₂, r₂, hrun, hfirst, hsecond, hsum⟩

end Simulation

end Tokenomics
