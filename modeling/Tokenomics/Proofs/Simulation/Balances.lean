import Tokenomics.Proofs.Address.Text
import Tokenomics.Proofs.Simulation.Runs
import Tokenomics.Proofs.Simulation.Totals

/-!
# Reports balance

A report keeps three totals of the same payments, each on its own: all of them, by what they are
for, and the vesting by address. The ledger keeps a fourth one, the supply. They agree
(`simulate_balances`), and it is the supply that makes them: it is checked where the others stop at
the greatest amount, so a run that went through has paid no more than an amount in all
(`supply_runBlocks`), and then no total was ever cut off.

In a block, vesting is what has the label of vesting, and all of it goes to accounts. Since the text
of an address says which one it is, summing up by text is summing up by address, however many
receivers share it.
-/

namespace Tokenomics

open Keeper

variable {height : UInt64} {p : Params} {st : EmissionState} {e : Emission} {es : List Emission}
  {x : Payment} {s s' : Store} {l l' : Ledger} {heights : List UInt64} {r : Report}

/-! ## Names -/

theorem Address.text_inj {a b : Address} : a.text = b.text ↔ a = b := by
  refine ⟨fun h ↦ ?_, congrArg text⟩
  have hread := ofText_text a
  rw [h, ofText_text b] at hread
  exact (Except.ok.inj hread).symm

/-- A payment is summed up under an address when it is vesting for it. -/
theorem vestedName?_eq_some_text {a : Address} :
    x.vestedName? = some a.text ↔ Emission.vestsTo a x = true := by
  obtain ⟨allocation, recipient, amount⟩ := x
  cases allocation with
  | pool p => exact ⟨nofun, nofun⟩
  | developerVesting month =>
    show _ ↔ decide (recipient = .account a) = true
    rw [decide_eq_true_iff]
    cases recipient with
    | account b =>
      show some b.text = some a.text ↔ _
      rw [Option.some.injEq, Address.text_inj, Recipient.account.injEq]
    | moduleAccount name => exact ⟨nofun, nofun⟩

/-- In a block, what is labelled as vesting is vesting to an account. -/
theorem labelName?_eq_vestingLabel (hp : scheduleLength p.receivers < 1 <<< 64 - 1)
    (h : processBlock height p st = .ok e) (hx : x ∈ e.payments) :
    x.labelName? = some vestingLabel ↔ x.vestedName?.isSome = true := by
  obtain ⟨-, rfl⟩ | ⟨-, st₁, reduced, pools, -, hpools, rfl⟩ := processBlock_eq_ok.mp h
  · exact absurd hx List.not_mem_nil
  · rcases List.mem_append.mp hx with hx | hx
    · obtain ⟨pool, product, -, -, rfl⟩ := eq_of_mem_poolPayments hpools hx
      refine iff_of_false (fun hlabel ↦ ?_) nofun
      have hpool : pool.label = vestingLabel := Option.some.inj hlabel
      cases pool <;> exact absurd hpool (by decide)
    · rw [vestingPayments_advance p hp] at hx
      obtain ⟨k, receiver, -, m, -, rfl⟩ := eq_of_mem_vestingDue hx
      exact iff_of_true rfl rfl

/-! ## The supply -/

/-- A run raises the supply by all that its blocks pay. -/
theorem Keeper.supply_runBlocks {b : Book} (hb : Fit b) (hp : params s = .ok p)
    (hentries : p.entryCount < 1 <<< 62)
    (h : runBlocks s (.book b) heights = .ok (es, s', l')) :
    (l'.supply p.denom).toNat
      = (b.supply p.denom).toNat + unitsOf (es.flatMap (·.payments)) := by
  obtain ⟨mint, hmint, hhas⟩ := hb.mint
  have hsupply := (settled_runBlocks (l := .book b) rfl hp hmint hhas h).supply p.denom
  rw [if_pos rfl] at hsupply
  rw [unitsOf_flatMap_payments hentries (processBlock_of_mem_runBlocks hp h)]
  exact hsupply

namespace Report

/-- The report of a run covers its blocks, and the supply is what was minted. -/
theorem covers_of_runBlocks (hp : params s = .ok p) (hentries : p.entryCount < 1 <<< 62)
    (h : runBlocks s (.book .standard) heights = .ok (es, s', l')) (first last : UInt64)
    (st : EmissionState) (hr : r = (es.foldl addBlock (.start first last)).finish st
      (l'.supply p.denom)) : r.Covers es ∧ r.supply = r.minted := by
  have hsupply := supply_runBlocks fit_standard hp hentries h
  rw [supply_standard] at hsupply
  have hunits : (l'.supply p.denom).toNat = unitsOf (es.flatMap (·.payments)) :=
    hsupply.trans (Nat.zero_add _)
  have hfits : unitsOf (es.flatMap (·.payments)) < 1 <<< 128 :=
    hunits.symm.trans_lt (l'.supply p.denom).toNat_lt
  have hcovers : (es.foldl addBlock (.start first last)).Covers es :=
    (covers_start first last).foldl_addBlock hfits
  obtain ⟨⟨hminted, hallocation, hvested⟩, hblocks, hreductions⟩ := hcovers
  subst hr
  exact ⟨⟨⟨hminted, hallocation, hvested⟩, hblocks, hreductions⟩,
    Amount.ext (hunits.trans hminted.symm)⟩

/-! ## Balances -/

/-- The totals of a report agree with each other and with the emissions of its blocks. -/
structure Balances (r : Report) (es : List Emission) : Prop where
  supply : r.supply = r.minted
  minted : r.minted.toNat = unitsOf (es.flatMap (·.payments))
  byAllocation : sumOfEntries r.byAllocation = r.minted.toNat
  vested : sumOfEntries r.vested = sumUnder r.byAllocation vestingLabel
  vestedTo : ∀ a : Address, sumUnder r.vested a.text
    = unitsOf ((es.flatMap (·.payments)).filter (Emission.vestsTo a))
  /-- An address has an entry when anything was vested to it. -/
  vestedNames : ∀ a : Address, r.vested.contains a.text
    = (es.flatMap (·.payments)).any (Emission.vestsTo a)
  reductions : r.reductions.Pairwise (· < ·)

theorem Covers.balances (h : r.Covers es) (hsupply : r.supply = r.minted)
    (hp : scheduleLength p.receivers < 1 <<< 64 - 1)
    (hes : ∀ e ∈ es, ∃ height st, processBlock height p st = .ok e)
    (hheights : (es.map (·.height)).Pairwise (· < ·)) : r.Balances es where
  supply := hsupply
  minted := h.accounts.minted
  byAllocation := by
    rw [h.accounts.byAllocation.sumOfEntries, h.accounts.minted]
    exact congrArg unitsOf (List.filter_eq_self.mpr fun x _ ↦ rfl)
  vested := by
    rw [h.accounts.vested.sumOfEntries, h.accounts.byAllocation.sumUnder]
    refine congrArg unitsOf (List.filter_congr fun x hx ↦ ?_)
    obtain ⟨e, he, hx⟩ := List.mem_flatMap.mp hx
    obtain ⟨height, st, hblock⟩ := hes e he
    rw [Bool.eq_iff_iff, decide_eq_true_iff, labelName?_eq_vestingLabel hp hblock hx]
  vestedTo a := by
    rw [h.accounts.vested.sumUnder]
    refine congrArg unitsOf (List.filter_congr fun x _ ↦ ?_)
    rw [Bool.eq_iff_iff, decide_eq_true_iff, vestedName?_eq_some_text]
  vestedNames a := by
    rw [h.accounts.vested.contains]
    refine List.any_congr rfl fun x ↦ ?_
    rw [Bool.eq_iff_iff, decide_eq_true_iff, vestedName?_eq_some_text]
  reductions := by
    rw [h.reductions]
    exact hheights.sublist (List.filter_sublist.map _)

end Report

namespace Simulation

variable {g : Genesis} {c : Settings}

/-- **The report of a simulation balances.** Whatever run succeeds, fresh or resumed: the supply is
what was minted, and that is the sum of what is reported by allocation; the vesting reported by
address sums up to what is reported for the allocation of vesting, and under each address there is
what the blocks of the run vested to it. The heights of the reductions go up, every height of the
settings is a block, and the final state is the one on record. -/
theorem simulate_balances (h : simulate s g c = (s', .ok r)) (hp : Keeper.params s' = .ok p)
    (hentries : p.entryCount < 1 <<< 62) : ∃ es s₁ l st,
      runBlocks (prepare s g).1 (.book .standard) c.heights = .ok (es, s₁, l) ∧ r.Balances es ∧
      r.blocks = c.endHeight.toNat + 1 - c.startHeight.toNat ∧ Keeper.state s' = .ok st ∧
      r.finalState = some st := by
  obtain ⟨s₀, p', es, s₁, l, st, hprepare, hp', hrun, hst, rfl, hr⟩ := simulate_eq_ok.mp h
  obtain rfl : p' = p := by
    rw [params_flush, params_runBlocks hp' hrun] at hp
    exact Except.ok.inj hp
  obtain ⟨hcovers, hsupply⟩ := Report.covers_of_runBlocks hp' hentries hrun _ _ st hr
  have hheights := heights_runBlocks hrun
  have hbalances := hcovers.balances hsupply (scheduleLength_lt hentries)
    (processBlock_of_mem_runBlocks hp' hrun) (hheights.symm ▸ c.pairwise_heights)
  refine ⟨es, s₁, l, st, ?_, hbalances, ?_, (state_flush s₁).trans hst, ?_⟩
  · rw [hprepare]
    exact hrun
  · rw [hcovers.blocks, ← c.length_heights, ← hheights, List.length_map]
  · rw [hr]
    rfl

/-- Months and reduction periods of two blocks, and two receivers that share an address. -/
def sharedVesting : Genesis where
  params := { Params.standard with
    reductionPeriod := 2
    receivers := [⟨.derive "developer", [5, 9]⟩, ⟨.derive "developer", [7]⟩] }
  state := .genesis .standard { MonthCursor.standard with period := 2 }

/-- Seven heights from the first one. -/
def sevenHeights : Settings := { Settings.standard with endHeight := 7 }

theorem simulate_balances_sharedVesting : ∃ s r es s₁ l st,
    simulate .empty sharedVesting sevenHeights = (s, .ok r) ∧
    runBlocks (prepare .empty sharedVesting).1 (.book .standard) sevenHeights.heights
      = .ok (es, s₁, l) ∧
    r.Balances es ∧ r.blocks = 7 ∧ Keeper.state s = .ok st ∧ r.finalState = some st := by
  have hvalid : sharedVesting.validate = .ok () := by decide +kernel
  have hinit : initGenesis .empty sharedVesting = (_, .ok ()) :=
    initGenesis_eq_ok.mpr ⟨hvalid, _, _, rfl, rfl, rfl⟩
  obtain ⟨s, r, hrun, hp⟩ :=
    exists_simulate (c := sevenHeights) rfl hinit (by decide) (by decide)
  obtain ⟨es, s₁, l, st, hblocks, hbalances, hcount, hst, hfinal⟩ :=
    simulate_balances hrun hp (by decide)
  exact ⟨s, r, es, s₁, l, st, hrun, hblocks, hbalances, hcount, hst, hfinal⟩

end Simulation

end Tokenomics
