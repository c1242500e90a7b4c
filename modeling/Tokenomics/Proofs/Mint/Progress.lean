import Tokenomics.Proofs.Mint.Export
import Tokenomics.Proofs.Mint.Solvency

/-!
# Blocks that go through

A keeper that is ready can process the next block on a book that is fit to be paid from, and both
stay so (`exists_endBlock`). The one thing that can be in the way is the supply, which has to have
room for the total.

## Room

How much room a run of blocks needs can be said beforehand, from the length of the vesting table
(`exists_runBlocks`). And it can be learned from another run: what went through on one book goes
through on every book that has supplied no more, block for block and with the same emissions
(`runBlocks_again`). The balances of the two books need not have anything in common, since the mint
pays out of what it has just minted.
-/

namespace Tokenomics

open Ledger

namespace Keeper

variable {s s' t : Store} {b b' c : Book} {l l' : Ledger} {height : UInt64} {e : Emission}
  {p : Params} {st : EmissionState} {heights : List UInt64} {es : List Emission}

/-! ## Books to be paid from -/

/-- A book on which blocks can be settled: it holds what it has supplied, has the modules that a
block pays from and to, and has the mint's account. -/
structure Fit (b : Book) : Prop where
  balanced : (Ledger.book b).Balanced
  modules : HasModules b
  mint : HasModule b mintModule

theorem fit_standard : Fit .standard where
  balanced := balanced_standard
  modules := hasModules_standard
  mint := hasModule_standard List.mem_cons_self

theorem balanced_foldlM_pay {xs : List Payment} (hl : l.Balanced)
    (h : xs.foldlM pay l = .ok l') : l'.Balanced := by
  induction xs generalizing l with
  | nil =>
    obtain rfl : l = l' := Except.ok.inj h
    exact hl
  | cons x xs ih =>
    rw [List.foldlM_cons, bind_eq_ok] at h
    obtain ⟨l₁, hx, hxs⟩ := h
    obtain ⟨recipient, mint, -, -, htransfer⟩ := pay_eq_ok.mp hx
    exact ih (hl.transfer htransfer) hxs

/-- A settled emission has raised the supply by its total, and the book is fit for the next one. -/
theorem Fit.settle {denom : String} {view : Ledger} (h : Fit b)
    (hview : Keeper.settle (.book b) denom e = .ok view) : ∃ b', view.commit = .book b' ∧ Fit b' ∧
      ∀ d, (b'.supply d).toNat = (b.supply d).toNat + if denom = d then e.total.toNat else 0 := by
  obtain ⟨mint, hmint, hhas⟩ := h.mint
  have hsettled := settled_settle (l := .book b) trivial hview hmint hhas
  have hdirect := commit_settle (l := .book b) trivial denom e
  rw [hview] at hdirect
  obtain ⟨l₁, hminted, hpaid⟩ := bind_eq_ok.mp hdirect.symm
  have hbalanced : view.commit.Balanced :=
    balanced_foldlM_pay (balanced_mintTotal h.balanced hminted) hpaid
  obtain ⟨b', hb'⟩ := exists_eq_book hsettled.under
  rw [hb'] at hsettled hbalanced
  have hmodules (name : String) : b'.modules.get? name = b.modules.get? name :=
    hsettled.moduleAddress name
  refine ⟨b', hb', ⟨hbalanced, fun name hname ↦ ?_, mint, (hmodules _).trans hmint, ?_⟩,
    hsettled.supply⟩
  · rw [hmodules]
    exact h.modules name hname
  · show ((Ledger.book b').account? mint).isSome
    rw [hsettled.account]
    exact (congrArg Option.isSome (Option.or_of_isSome hhas)).trans hhas

/-! ## Stores to go on from -/

/-- The keeper's records are readable, and the store is open for the next state. -/
structure Ready (s : Store) (p : Params) (st : EmissionState) : Prop where
  params : Keeper.params s = .ok p
  state : Keeper.state s = .ok st
  writable : s.closed.get? stateKey = none

/-- Flushing a store leaves its records alone. -/
theorem params_flush (s : Store) : Keeper.params s.flush = Keeper.params s :=
  required_congr rfl paramsKey

theorem state_flush (s : Store) : Keeper.state s.flush = Keeper.state s :=
  required_congr rfl stateKey

theorem Ready.flush (h : Ready s p st) : Ready s.flush p st :=
  ⟨(params_flush s).trans h.params, (state_flush s).trans h.state, h.writable⟩

theorem ready_initGenesis {g : Genesis} (hg : initGenesis s g = (s', .ok ())) :
    Ready s' g.params.unsigned g.state.unsigned := by
  obtain ⟨hparams, hstate⟩ := reads_initGenesis hg
  obtain ⟨hopen, hclosed⟩ := closed_initGenesis hg
  rw [← hclosed] at hopen
  exact ⟨hparams, hstate, hopen⟩

/-- What a block that went through leaves. -/
theorem Ready.endBlock (hs : Ready s p st) (hb : Fit b)
    (h : Keeper.endBlock s (.book b) height = .ok (e, s', l')) :
    processBlock height p st = .ok e ∧ Ready s' p e.state.unsigned ∧
      ∃ b', l' = .book b' ∧ Fit b' ∧ ∀ d, (b'.supply d).toNat
        = (b.supply d).toNat + if p.denom = d then e.total.toNat else 0 := by
  obtain ⟨he, ⟨view, hview, rfl⟩, hp, hst⟩ := recorded_endBlock hs.params hs.state h
  refine ⟨he, ⟨hp, hst, ?_⟩, hb.settle hview⟩
  rw [(closed_endBlock h).2]
  exact hs.writable

/-! ## One block -/

/-- A block goes through when the supply has room for its total. -/
theorem exists_endBlock (hs : Ready s p st) (hb : Fit b) (hp : p.validate = .ok ())
    (hentries : p.entryCount < 1 <<< 62) (he : processBlock height p st = .ok e)
    (hroom : (b.supply p.denom).toNat + e.total.toNat < 1 <<< 128) :
    ∃ s' b', endBlock s (.book b) height = .ok (e, s', .book b') := by
  obtain ⟨view, hview⟩ := exists_settle hb.balanced hb.modules hp hentries he hroom
  obtain ⟨s', hblock, -⟩ :=
    exists_endBlock_of_emit hs.params hs.state hs.writable (emit_eq_ok.mpr ⟨he, hview⟩)
  obtain ⟨b', hb', -⟩ := hb.settle hview
  rw [hb'] at hblock
  exact ⟨s', b', hblock⟩

/-! ## Runs -/

theorem runBlocks_append {heights' : List UInt64} :
    runBlocks s l (heights ++ heights') = .ok (es, s', l') ↔
      ∃ es₁ es₂ s₁ l₁, es = es₁ ++ es₂ ∧ runBlocks s l heights = .ok (es₁, s₁, l₁) ∧
        runBlocks s₁ l₁ heights' = .ok (es₂, s', l') := by
  induction heights generalizing s l es with
  | nil =>
    constructor
    · intro h
      exact ⟨[], es, s, l, rfl, rfl, h⟩
    · rintro ⟨es₁, es₂, s₁, l₁, rfl, h₁, h₂⟩
      obtain ⟨rfl, rfl, rfl⟩ := runBlocks_nil_eq_ok.mp h₁
      exact h₂
  | cons height heights ih =>
    rw [List.cons_append, runBlocks_cons_eq_ok]
    constructor
    · rintro ⟨e, es', s₁, l₁, rfl, hblock, hrest⟩
      obtain ⟨es₁, es₂, s₂, l₂, rfl, h₁, h₂⟩ := ih.mp hrest
      exact ⟨e :: es₁, es₂, s₂, l₂, rfl,
        runBlocks_cons_eq_ok.mpr ⟨e, es₁, s₁, l₁, rfl, hblock, h₁⟩, h₂⟩
    · rintro ⟨es₁, es₂, s₂, l₂, rfl, h₁, h₂⟩
      obtain ⟨e, es₁, s₁, l₁, rfl, hblock, hrest⟩ := runBlocks_cons_eq_ok.mp h₁
      exact ⟨e, es₁ ++ es₂, s₁, l₁, rfl, hblock, ih.mpr ⟨es₁, es₂, s₂, l₂, rfl, hrest, h₂⟩⟩

/-- What a run that went through leaves. -/
theorem Ready.runBlocks (hs : Ready s p st) (hb : Fit b)
    (h : Keeper.runBlocks s (.book b) heights = .ok (es, s', l')) :
    ∃ st' b', Ready s' p st' ∧ l' = .book b' ∧ Fit b' := by
  induction heights generalizing s b st es with
  | nil =>
    obtain ⟨-, rfl, rfl⟩ := runBlocks_nil_eq_ok.mp h
    exact ⟨st, b, hs, rfl, hb⟩
  | cons height heights ih =>
    obtain ⟨e, es, s₁, l₁, rfl, hblock, hrest⟩ := runBlocks_cons_eq_ok.mp h
    obtain ⟨-, hs₁, b₁, rfl, hb₁, -⟩ := hs.endBlock hb hblock
    exact ih hs₁ hb₁ hrest

/-- How much a block emits at most: five pools of 96 bits and the whole of the vesting table. -/
def blockBound (p : Params) : Nat := 5 * (1 <<< 96) + p.entryCount * (1 <<< 64)

/-- Blocks go through as long as the supply has room for all that they could emit. -/
theorem exists_runBlocks (hs : Ready s p st) (hb : Fit b) (hp : p.validate = .ok ())
    (hentries : p.entryCount < 1 <<< 62)
    (hroom : (b.supply p.denom).toNat + heights.length * blockBound p < 1 <<< 128) :
    ∃ es s' b', runBlocks s (.book b) heights = .ok (es, s', .book b') := by
  induction heights generalizing s b st with
  | nil => exact ⟨[], s, b, rfl⟩
  | cons height heights ih =>
    obtain ⟨e, he⟩ := exists_processBlock hp height st
    have htotal : e.total.toNat ≤ blockBound p := by
      rw [toNat_total hentries he]
      exact unitsOf_payments_le (scheduleLength_lt hentries) he
    rw [List.length_cons, Nat.succ_mul] at hroom
    obtain ⟨s₁, b₁, hblock⟩ := exists_endBlock hs hb hp hentries he (by omega)
    obtain ⟨-, hs₁, b₁', hbook, hb₁, hsupply⟩ := hs.endBlock hb hblock
    obtain rfl : b₁ = b₁' := Ledger.book.inj hbook
    have hdenom := hsupply p.denom
    rw [if_pos rfl] at hdenom
    obtain ⟨es, s', b', hrest⟩ := ih hs₁ hb₁ (by omega)
    exact ⟨e :: es, s', b', runBlocks_cons_eq_ok.mpr ⟨e, es, s₁, .book b₁, rfl, hblock, hrest⟩⟩

/-- What went through once goes through again, from another store with the same records and on
another book that has supplied no more: the emissions are the same, and so is the state at the
end. -/
theorem runBlocks_again (hs : Ready s p st) (hb : Fit b) (ht : Ready t p st) (hc : Fit c)
    (hp : p.validate = .ok ()) (hentries : p.entryCount < 1 <<< 62)
    (hsupply : (c.supply p.denom).toNat ≤ (b.supply p.denom).toNat)
    (h : runBlocks s (.book b) heights = .ok (es, s', l')) :
    ∃ t' c', runBlocks t (.book c) heights = .ok (es, t', .book c') ∧ state t' = state s' := by
  induction heights generalizing s t b c st es with
  | nil =>
    obtain ⟨rfl, rfl, -⟩ := runBlocks_nil_eq_ok.mp h
    exact ⟨t, c, rfl, ht.state.trans hs.state.symm⟩
  | cons height heights ih =>
    obtain ⟨e, es, s₁, l₁, rfl, hblock, hrest⟩ := runBlocks_cons_eq_ok.mp h
    obtain ⟨he, hs₁, b₁, rfl, hb₁, hsupply₁⟩ := hs.endBlock hb hblock
    have hdenom := hsupply₁ p.denom
    rw [if_pos rfl] at hdenom
    -- the supply of the one book has had room for the total, so that of the other has
    have hlt := (b₁.supply p.denom).toNat_lt
    obtain ⟨t₁, c₁, hblock'⟩ := exists_endBlock ht hc hp hentries he (by omega)
    obtain ⟨-, ht₁, c₁', hbook, hc₁, hsupply₂⟩ := ht.endBlock hc hblock'
    obtain rfl : c₁ = c₁' := Ledger.book.inj hbook
    have hdenom' := hsupply₂ p.denom
    rw [if_pos rfl] at hdenom'
    obtain ⟨t', c', hrest', hstate⟩ := ih hs₁ hb₁ ht₁ hc₁ (by omega) hrest
    exact ⟨t', c', runBlocks_cons_eq_ok.mpr ⟨e, es, t₁, .book c₁, rfl, hblock', hrest'⟩, hstate⟩

end Keeper

end Tokenomics
