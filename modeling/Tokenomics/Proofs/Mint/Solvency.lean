import Tokenomics.Proofs.Ledger.Conservation
import Tokenomics.Proofs.Mint.Provisions

/-!
# Settling cannot fail

On a ledger that holds what it has supplied, and with the module accounts that are paid, a block
can fail for one reason only: its total does not fit into the supply (`endBlock_error_iff`).

The payments come after the mint, and what has been minted to the mint's account covers all of
them. That stays so from payment to payment (`Funded.pay`): one that goes elsewhere takes from the
account what is no longer to be covered, and one that comes back to it takes nothing. The account
may have held coins before, so it holds what is still to be paid at least. Each payment is of one
valid coin (`payable_of_mem_payments`), and no credit overflows, because the recipient and the
mint's account together hold no more than the supply (`Ledger.Balanced.exists_transfer`). So
recipients may coincide with each other and with the mint.
-/

namespace Tokenomics

open Ledger

variable {height : UInt64} {p : Params} {st : EmissionState} {e : Emission}

/-! ## Payments that can be made -/

/-- A payment that a ledger with the module accounts of the pools can make: of a valid coin of one
denomination, to an address or to one of these accounts. -/
structure Payment.Payable (denom : String) (x : Payment) : Prop where
  denom_eq : x.amount.denom = denom
  sound : x.amount.Sound
  recipient : ∀ name, x.recipient = .moduleAccount name → name ∈ [feeCollector, communityPool]

theorem isDenom_of_validate (hp : p.validate = .ok ()) : isDenom p.denom = true := by
  obtain ⟨hdenom, -⟩ := Params.validate_eq_ok.mp hp
  rw [Params.checkMintDenom] at hdenom
  split at hdenom
  · exact nomatch hdenom
  · split at hdenom
    · rename_i hcheck
      exact Coins.checkDenom_eq_ok.mp hcheck
    · exact nomatch hdenom

theorem recipient_eq_moduleAccount {pool : Pool} {name : String}
    (h : pool.recipient p = .moduleAccount name) : name ∈ [feeCollector, communityPool] := by
  cases pool with
  | communityPool =>
    obtain rfl : Tokenomics.communityPool = name := Recipient.moduleAccount.inj h
    simp
  | staking =>
    obtain rfl : feeCollector = name := Recipient.moduleAccount.inj h
    simp
  | grantsProgram => exact nomatch h
  | usageIncentive => exact nomatch h
  | developerRewards => exact nomatch h

/-- The payments of a block can be made. -/
theorem payable_of_mem_payments (hp : p.validate = .ok ()) (hentries : p.entryCount < 1 <<< 62)
    (h : processBlock height p st = .ok e) {x : Payment} (hx : x ∈ e.payments) :
    x.Payable p.denom := by
  have hdenom := isDenom_of_validate hp
  obtain ⟨-, rfl⟩ | ⟨-, st₁, reduced, pools, -, hpools, rfl⟩ := processBlock_eq_ok.mp h
  · exact absurd hx List.not_mem_nil
  rcases List.mem_append.mp hx with hx | hx
  · obtain ⟨pool, product, -, hne, rfl⟩ := eq_of_mem_poolPayments hpools hx
    exact ⟨rfl, ⟨hdenom, hne⟩, fun name ↦ recipient_eq_moduleAccount⟩
  · rw [vestingPayments_advance p (scheduleLength_lt hentries)] at hx
    obtain ⟨k, r, -, m, hne, rfl⟩ := eq_of_mem_vestingDue hx
    have hunits : (Amount.ofUInt64 m).isZero = false := by
      rw [Amount.isZero, beq_eq_false_iff_ne]
      exact fun hzero ↦ hne (UInt64.toNat_inj.mp hzero)
    exact ⟨rfl, ⟨hdenom, hunits⟩, fun name hname ↦ Recipient.noConfusion hname⟩

theorem Coins.toList_single_of_sound {c : Coin} (hc : c.Sound) :
    (single c.denom c.amount).toList = [c] := by
  have hne : ¬ c.amount.isZero = true := Bool.eq_false_iff.mp hc.2
  rw [toList_single, if_neg hne]

theorem Coins.validate_single {c : Coin} (hc : c.Sound) :
    (single c.denom c.amount).validate = .ok () := by
  rw [validate_eq_ok, toList_single_of_sound hc]
  exact ⟨List.forall_mem_singleton.mpr hc, List.pairwise_singleton _ _⟩

namespace Keeper

variable {l l' : Ledger} {mint : Address} {denom : String} {total : Amount}

/-! ## Minting the total -/

/-- Minting one valid coin is crediting it to the mint's account. -/
theorem mint_single (hmint : l.moduleAddress? mintModule = some mint) {c : Coin} (hc : c.Sound) :
    l.mint mintModule (.single c.denom c.amount) = l.mintCoins mint [c] := by
  have hcheck : (do
      checkAmount (.single c.denom c.amount)
      l.moduleAddress mintModule : Except LedgerError Address) = .ok mint :=
    check_bind_eq_ok.mpr
      ⟨checkAmount_eq_ok.mpr (Coins.validate_single hc), moduleAddress_eq_ok.mpr hmint⟩
  rw [Ledger.mint, hcheck, Coins.toList_single_of_sound hc]

/-- What the supply has room for can be minted. -/
theorem exists_mintTotal (hl : l.Balanced) (hmint : l.moduleAddress? mintModule = some mint)
    (hdenom : isDenom denom = true)
    (hroom : (l.supply denom).toNat + total.toNat < 1 <<< 128) :
    ∃ l', mintTotal l denom total = .ok l' := by
  have hbalance := hl.balance_le_supply mint denom
  by_cases hzero : total.isZero = true
  · exact ⟨l, mintTotal_eq_ok.mpr (.inl ⟨hzero, rfl⟩)⟩
  obtain ⟨l₁, hcoin⟩ : ∃ l₁, l.mintCoin mint ⟨denom, total⟩ = .ok l₁ :=
    ⟨_, mintCoin_eq_ok.mpr ⟨⟨_, Nat.lt_of_le_of_lt (Nat.add_le_add_right hbalance _) hroom⟩,
      ⟨_, hroom⟩, rfl, rfl, rfl⟩⟩
  have hsound : Coin.Sound ⟨denom, total⟩ := ⟨hdenom, Bool.eq_false_iff.mpr hzero⟩
  have hminted := mint_single hmint hsound
  rw [mintCoins_cons_eq_ok.mpr ⟨l₁, hcoin, rfl⟩] at hminted
  exact ⟨l₁, mintTotal_eq_ok.mpr (.inr ⟨hzero, hminted⟩)⟩

/-- What the supply has no room for overflows. -/
theorem mintTotal_eq_overflow (hmint : l.moduleAddress? mintModule = some mint)
    (hdenom : isDenom denom = true)
    (hfull : 1 <<< 128 ≤ (l.supply denom).toNat + total.toNat) :
    mintTotal l denom total = .error (.overflow mint denom) := by
  have hsupply := (l.supply denom).toNat_lt
  have hzero : ¬ total.isZero = true := by
    intro hzero
    rw [beq_iff_eq.mp hzero] at hfull
    omega
  have hnone : (l.supply denom).add? total = none := by
    rw [Option.eq_none_iff_forall_ne_some]
    intro n hn
    have hsum := Amount.add?_eq_some.mp hn
    have hlt := n.toNat_lt
    omega
  have hcoin : l.mintCoin mint ⟨denom, total⟩ = .error (.overflow mint denom) := by
    rw [mintCoin, hnone]
    cases (l.balance ⟨mint, denom⟩).add? total with
    | none => rfl
    | some n => rfl
  have hsound : Coin.Sound ⟨denom, total⟩ := ⟨hdenom, Bool.eq_false_iff.mpr hzero⟩
  have hminted := mint_single hmint hsound
  rw [mintCoins, hcoin] at hminted
  exact mintTotal_eq_error.mpr ⟨hzero, l, hminted⟩

theorem balanced_mintTotal (hl : l.Balanced) (h : mintTotal l denom total = .ok l') :
    l'.Balanced := by
  have hbalanced := hl.mint mintModule (.single denom total)
  obtain ⟨-, rfl⟩ | ⟨-, hminted⟩ := mintTotal_eq_ok.mp h
  · exact hl
  · rwa [hminted] at hbalanced

/-! ## Making the payments -/

/-- The mint's account covers some payments, and all of them can be made. -/
structure Funded (mint : Address) (denom : String) (xs : List Payment) (l : Ledger) : Prop where
  balanced : l.Balanced
  mint_eq : l.moduleAddress? mintModule = some mint
  registered : ∀ name ∈ [feeCollector, communityPool], (l.moduleAddress? name).isSome
  payable : ∀ x ∈ xs, x.Payable denom
  covered : unitsOf xs ≤ (l.balance ⟨mint, denom⟩).toNat

theorem Funded.exists_resolve {x : Payment} {xs : List Payment}
    (h : Funded mint denom (x :: xs) l) : ∃ recipient, resolve l x.recipient = .ok recipient := by
  cases hrecipient : x.recipient with
  | account a => exact ⟨a, rfl⟩
  | moduleAccount name =>
    have hname := (h.payable x List.mem_cons_self).recipient name hrecipient
    obtain ⟨a, ha⟩ := Option.isSome_iff_exists.mp (h.registered name hname)
    exact ⟨a, moduleAddress_eq_ok.mpr ha⟩

/-- A payment that is covered can be made, and the mint's account still covers the others. -/
theorem Funded.pay {x : Payment} {xs : List Payment} (h : Funded mint denom (x :: xs) l) :
    ∃ l', Keeper.pay l x = .ok l' ∧ Funded mint denom xs l' := by
  obtain ⟨hx, hxs⟩ := List.forall_mem_cons.mp h.payable
  obtain ⟨recipient, hrecipient⟩ := h.exists_resolve
  have hcovered := h.covered
  rw [unitsOf, List.map_cons, List.sum_cons, ← unitsOf] at hcovered
  have hfunds : ∀ c ∈ (Coins.single x.amount.denom x.amount.amount).toList,
      c.amount ≤ l.balance ⟨mint, c.denom⟩ := by
    rw [Coins.toList_single_of_sound hx.sound]
    refine List.forall_mem_singleton.mpr ?_
    rw [hx.denom_eq]
    exact Nat.le_trans (Nat.le_add_right _ _) hcovered
  obtain ⟨l', htransfer⟩ :=
    h.balanced.exists_transfer (Coins.validate_single hx.sound) hfunds recipient
  refine ⟨l', pay_eq_ok.mpr ⟨recipient, mint, hrecipient, h.mint_eq, htransfer⟩,
    h.balanced.transfer htransfer, (moduleAddress?_transfer htransfer mintModule).trans h.mint_eq,
    fun name hname ↦ ?_, hxs, ?_⟩
  · rw [moduleAddress?_transfer htransfer]
    exact h.registered name hname
  · -- the account loses the payment, unless it is the recipient as well
    have hmoved := balance_transfer_add htransfer mint denom
    rw [if_pos rfl, Coins.unitsIn_single, if_pos hx.denom_eq] at hmoved
    omega

theorem Funded.foldlM_pay {xs : List Payment} (h : Funded mint denom xs l) :
    ∃ l', xs.foldlM Keeper.pay l = .ok l' := by
  induction xs generalizing l with
  | nil => exact ⟨l, rfl⟩
  | cons x xs ih =>
    obtain ⟨l₁, hpay, hfunded⟩ := h.pay
    obtain ⟨l', hrest⟩ := ih hfunded
    exact ⟨l', bind_eq_ok.mpr ⟨l₁, hpay, hrest⟩⟩

/-- Once the total is minted, the mint's account covers the payments of the block. -/
theorem funded_mintTotal (hl : l.Balanced) (hmint : l.moduleAddress? mintModule = some mint)
    (hregistered : ∀ name ∈ [feeCollector, communityPool], (l.moduleAddress? name).isSome)
    (hp : p.validate = .ok ()) (hentries : p.entryCount < 1 <<< 62)
    (he : processBlock height p st = .ok e) (h : mintTotal l p.denom e.total = .ok l') :
    Funded mint p.denom e.payments l' := by
  have hsettled := settled_mintTotal h hmint
  refine ⟨balanced_mintTotal hl h, (hsettled.moduleAddress mintModule).trans hmint,
    fun name hname ↦ ?_, fun x hx ↦ payable_of_mem_payments hp hentries he hx, ?_⟩
  · rw [hsettled.moduleAddress]
    exact hregistered name hname
  · have hbalance := hsettled.balance mint p.denom
    have hnone : paidIn [] p.denom = 0 := rfl
    rw [if_pos rfl, if_pos rfl, if_pos rfl, hnone] at hbalance
    rw [← toNat_total hentries he]
    omega

/-! ## Blocks -/

/-- The module accounts that a block pays from or to are registered, under whatever addresses. -/
def HasModules (b : Book) : Prop :=
  ∀ name ∈ [mintModule, feeCollector, communityPool], (b.modules.get? name).isSome

theorem HasModules.exists_mint {b : Book} (h : HasModules b) :
    ∃ mint, b.modules.get? mintModule = some mint :=
  Option.isSome_iff_exists.mp (h mintModule List.mem_cons_self)

section Settle

variable {b : Book} (hb : (Ledger.book b).Balanced) (hmodules : HasModules b)
  (hp : p.validate = .ok ()) (hentries : p.entryCount < 1 <<< 62)
  (he : processBlock height p st = .ok e)

include hb hmodules hp hentries he in
/-- An emission that the supply has room for is settled. -/
theorem exists_settle (hroom : (b.supply p.denom).toNat + e.total.toNat < 1 <<< 128) :
    ∃ view, settle (.book b) p.denom e = .ok view := by
  obtain ⟨mint, hmint⟩ := hmodules.exists_mint
  obtain ⟨l₁, hminted⟩ := exists_mintTotal hb hmint (isDenom_of_validate hp) hroom
  have hregistered (name : String) (hname : name ∈ [feeCollector, communityPool]) :
      ((Ledger.book b).moduleAddress? name).isSome := hmodules name (List.mem_cons_of_mem _ hname)
  obtain ⟨l₂, hpaid⟩ := (funded_mintTotal hb hmint hregistered hp hentries he hminted).foldlM_pay
  -- it is settled on a view, and that comes to the same
  have hview := commit_settle (l := .book b) trivial p.denom e
  rw [bind_eq_ok.mpr ⟨l₁, hminted, hpaid⟩] at hview
  cases hsettle : settle (.book b) p.denom e with
  | ok view => exact ⟨view, rfl⟩
  | error cause =>
    rw [hsettle] at hview
    exact nomatch hview

include hmodules hp in
/-- An emission that the supply has no room for fails with the mint. -/
theorem settle_eq_overflow (hfull : 1 <<< 128 ≤ (b.supply p.denom).toNat + e.total.toNat) :
    ∃ mint, b.modules.get? mintModule = some mint ∧
      settle (.book b) p.denom e = .error (.overflow mint p.denom) := by
  obtain ⟨mint, hmint⟩ := hmodules.exists_mint
  have hminted := mintTotal_eq_overflow (l := .book b) hmint (isDenom_of_validate hp) hfull
  have hview := commit_settle (l := .book b) trivial p.denom e
  rw [hminted] at hview
  refine ⟨mint, hmint, ?_⟩
  cases hsettle : settle (.book b) p.denom e with
  | ok view =>
    rw [hsettle] at hview
    exact nomatch hview
  | error cause =>
    rw [hsettle] at hview
    rw [Except.error.inj hview]

end Settle

/-- **A block fails only when its total does not fit into the supply.** On a book that holds what it
has supplied and has the modules, with valid parameters and records that can be read and written,
the emission of a block is always computed, and the block fails exactly when the supply has no room
for its total. Then it is the mint that fails; no payment ever does. -/
theorem endBlock_error_iff {s : Store} {b : Book} (hb : (Ledger.book b).Balanced)
    (hmodules : HasModules b) (hparams : params s = .ok p) (hp : p.validate = .ok ())
    (hentries : p.entryCount < 1 <<< 62) (hstate : state s = .ok st)
    (hopen : s.closed.get? stateKey = none) (height : UInt64) :
    ∃ e, processBlock height p st = .ok e ∧
      ((∃ err, endBlock s (.book b) height = .error err) ↔
        1 <<< 128 - 1 < (b.supply p.denom).toNat + e.total.toNat) ∧
      ∀ err, endBlock s (.book b) height = .error err →
        ∃ mint, b.modules.get? mintModule = some mint ∧ err = .ledger (.overflow mint p.denom) := by
  obtain ⟨e, he⟩ := exists_processBlock hp height st
  have hblock := endBlock_eq_bind hparams hstate he (.book b)
  refine ⟨e, he, ?_⟩
  by_cases hfull : 1 <<< 128 ≤ (b.supply p.denom).toNat + e.total.toNat
  · obtain ⟨mint, hmint, hsettle⟩ := settle_eq_overflow hmodules hp hfull
    have hfails : endBlock s (.book b) height = .error (.ledger (.overflow mint p.denom)) := by
      rw [hblock, hsettle]
      rfl
    refine ⟨iff_of_true ⟨_, hfails⟩ (by omega), fun err herr ↦ ⟨mint, hmint, ?_⟩⟩
    exact Except.error.inj (herr.symm.trans hfails)
  · obtain ⟨view, hsettle⟩ := exists_settle hb hmodules hp hentries he (by omega)
    obtain ⟨s', hs'⟩ := exists_setState hopen e.state
    have hsucceeds : endBlock s (.book b) height = .ok (e, s', view.commit) := by
      rw [hblock, hsettle, hs']
      rfl
    have hnone (err : MintError) : endBlock s (.book b) height ≠ .error err := by
      rw [hsucceeds]
      exact nofun
    exact ⟨iff_of_false (fun ⟨err, herr⟩ ↦ hnone err herr) (by omega),
      fun err herr ↦ absurd herr (hnone err)⟩

theorem balanced_standard : (Ledger.book .standard).Balanced := by
  rw [Book.standard_eq]
  exact (((balanced_of_arises .refl).register _).register _).register _

theorem supply_standard (d : String) : Book.standard.supply d = .zero := by
  rw [Book.standard_eq, supply_register, supply_register, supply_register]
  rfl

theorem hasModules_standard : HasModules .standard := by
  intro name hname
  obtain ⟨a, ha, -⟩ := hasModule_standard hname
  exact Option.isSome_iff_exists.mpr ⟨a, ha⟩

/-- The book with the greatest supply of the base denomination, all of it in one account. -/
def exhausted (b : Book) : Book :=
  (b.setBalance ⟨.ofModule feeCollector, Params.bondDenom⟩ .greatest).setSupply Params.bondDenom
    .greatest

theorem HasModules.exhausted {b : Book} (h : HasModules b) : HasModules (exhausted b) := h

theorem supply_exhausted (b : Book) : (exhausted b).supply Params.bondDenom = .greatest := by
  rw [exhausted, Book.setSupply, Book.supply, SortedMap.get?_insert_self, Option.getD_some]

/-- A book that supplies nothing of the denomination is balanced with the greatest supply too. -/
theorem balanced_exhausted {b : Book} (hb : (Ledger.book b).Balanced)
    (hsupply : b.supply Params.bondDenom = .zero) : (Ledger.book (exhausted b)).Balanced := by
  have hnone : (b.supply Params.bondDenom).toNat = 0 := by
    rw [hsupply]
    rfl
  have hbalance := hb.balance_le_supply (.ofModule feeCollector) Params.bondDenom
  refine hb.credit (n := Amount.greatest.toNat) ?_ ?_
  · rw [Nat.le_zero.mp (Nat.le_trans hbalance (Nat.le_of_eq hnone)), Nat.zero_add]
  · exact (Nat.zero_add _).symm.trans (congrArg (· + _) hnone.symm)

/-- The first block, on a book whose supply is used up and on one that has just been opened. -/
theorem endBlock_error_iff_exhausted : ∃ s,
    (∃ err, endBlock s (.book (exhausted .standard)) 1 = .error err) ∧
      ¬ ∃ err, endBlock s (.book .standard) 1 = .error err := by
  obtain ⟨s, hopen, hparams, hstate⟩ := exists_recorded .standard (.genesis .standard .standard)
  have hp : Params.standard.validate = .ok () := by decide +kernel
  have hentries : Params.standard.entryCount < 1 <<< 62 := by decide
  have htotal : (processBlock 1 .standard (.genesis .standard .standard)).toOption.all
      fun e ↦ 0 < e.total.toNat := by decide +kernel
  obtain ⟨e, he, hfails, -⟩ :=
    endBlock_error_iff (balanced_exhausted balanced_standard (supply_standard _))
      hasModules_standard.exhausted hparams hp hentries hstate hopen 1
  obtain ⟨e', he', hfails', -⟩ :=
    endBlock_error_iff balanced_standard hasModules_standard hparams hp hentries hstate hopen 1
  obtain rfl : e = e' := Except.ok.inj (he.symm.trans he')
  have hpos : 0 < e.total.toNat := by
    have hprocessed : processBlock 1 .standard (.genesis .standard .standard) = .ok e := he
    rw [hprocessed] at htotal
    exact of_decide_eq_true htotal
  refine ⟨s, hfails.mpr ?_, mt hfails'.mp ?_⟩
  · show 1 <<< 128 - 1 < ((exhausted .standard).supply Params.bondDenom).toNat + e.total.toNat
    rw [supply_exhausted]
    exact Nat.lt_add_of_pos_right hpos
  · have hfits := e.total.toNat_lt
    rw [supply_standard]
    show ¬ 1 <<< 128 - 1 < 0 + e.total.toNat
    omega

end Keeper

end Tokenomics
