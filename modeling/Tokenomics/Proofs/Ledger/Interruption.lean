import Tokenomics.Proofs.Ledger.Minting

/-!
# Minting that is interrupted

A transfer looks at all of its coins before it moves any. Minting does not: it writes coin by coin
and stops at the first that does not fit, with those before it minted (`mint_of_interruption`).
Valid coins name no denomination twice, so what is written for one does not decide whether another
fits, and where minting stops can be told from the ledger as it was. `mint_allOrNothing_iff` says
that minting is all or nothing unless it stops behind its first coin, be it on a book or on a view.
One coin, as a block mints it, is never minted in part (`allOrNothing_of_length_le_one`).
-/

namespace Tokenomics.Ledger

variable {l l' : Ledger} {a : Address} {c : Coin} {cs early : List Coin} {name : String}
  {coins : Coins} {e : LedgerError}

/-! ## Lists of coins -/

/-- Minting goes on behind coins that have been minted. -/
theorem mintCoins_append (h : l.mintCoins a early = (l', .ok ())) (late : List Coin) :
    l.mintCoins a (early ++ late) = l'.mintCoins a late := by
  induction early generalizing l with
  | nil =>
    obtain rfl : l = l' := (Prod.ext_iff.mp h).1
    rfl
  | cons b early ih =>
    obtain ⟨l₁, hb, hearly⟩ := mintCoins_cons_eq_ok.mp h
    rw [List.cons_append, mintCoins, hb]
    exact ih hearly

/-- Minting that fails has stopped at a coin that cannot be minted after those before it. -/
theorem mintCoins_eq_error (h : l.mintCoins a cs = (l', .error e)) :
    ∃ early c late, cs = early ++ c :: late ∧ l.mintCoins a early = (l', .ok ()) ∧
      l'.mintCoin a c = .error e := by
  induction cs generalizing l with
  | nil => exact nomatch (Prod.ext_iff.mp h).2
  | cons b cs ih =>
    rw [mintCoins] at h
    split at h
    · rename_i l₁ hb
      obtain ⟨early, c, late, rfl, hearly, hc⟩ := ih h
      exact ⟨b :: early, c, late, rfl, mintCoins_cons_eq_ok.mpr ⟨l₁, hb, hearly⟩, hc⟩
    · rename_i e' hb
      obtain ⟨rfl, he⟩ := Prod.ext_iff.mp h
      exact ⟨[], b, cs, rfl, rfl, hb.trans (congrArg _ (Except.error.inj he))⟩

/-- Coins have been credited to an address and added to the supply, and nothing else has changed. -/
structure Credits (l l' : Ledger) (a : Address) (cs : List Coin) : Prop where
  balance : ∀ c ∈ cs,
    (l'.balance ⟨a, c.denom⟩).toNat = (l.balance ⟨a, c.denom⟩).toNat + c.amount.toNat
  supply : ∀ c ∈ cs, (l'.supply c.denom).toNat = (l.supply c.denom).toNat + c.amount.toNat
  other_balance : ∀ h : Holding, (∀ c ∈ cs, h ≠ ⟨a, c.denom⟩) → l'.balance h = l.balance h
  other_supply : ∀ d, (∀ c ∈ cs, c.denom ≠ d) → l'.supply d = l.supply d
  other_supplyRow? : ∀ d, (∀ c ∈ cs, c.denom ≠ d) → l'.supplyRow? d = l.supplyRow? d
  account? : ∀ b, l'.account? b = l.account? b
  moduleAddress? : ∀ name, l'.moduleAddress? name = l.moduleAddress? name
  under? : l'.under? = l.under?

/-- Coins of different denominations that are all minted are credited. -/
theorem credits_mintCoins (hcs : cs.Pairwise fun b c ↦ b.denom ≠ c.denom)
    (h : l.mintCoins a cs = (l', .ok ())) : Credits l l' a cs := by
  obtain rfl : (l.mintCoins a cs).1 = l' := congrArg Prod.fst h
  constructor
  case balance =>
    intro c hc
    rw [balance_mintCoins h, if_pos rfl, Coins.unitsIn_of_mem hcs hc]
  case supply =>
    intro c hc
    rw [supply_mintCoins h, Coins.unitsIn_of_mem hcs hc]
  case other_balance =>
    rintro ⟨owner, denom⟩ hother
    refine Amount.ext ((balance_mintCoins h _).trans ?_)
    by_cases howner : owner = a
    · subst howner
      rw [Coins.unitsIn_eq_zero fun c hc hdenom ↦ hother c hc (by rw [hdenom]), ite_self,
        Nat.add_zero]
    · rw [if_neg howner, Nat.add_zero]
  case other_supply =>
    intro d hother
    refine Amount.ext ((supply_mintCoins h d).trans ?_)
    rw [Coins.unitsIn_eq_zero hother, Nat.add_zero]
  case other_supplyRow? =>
    intro d hother
    refine read_mintCoins (supplyRow? · d) l a (by simp) fun c hc l n ↦ ?_
    exact (supplyRow?_setSupply ..).trans (if_neg (hother c hc).symm)
  case account? =>
    intro b
    exact read_mintCoins (account? · b) l a (by simp) (by simp)
  case moduleAddress? =>
    intro name
    exact read_mintCoins (moduleAddress? · name) l a (by simp) (by simp)
  case under? => exact read_mintCoins under? l a (by simp) (by simp)

/-- Coins that have been credited did fit. -/
theorem Credits.fits (h : Credits l l' a cs) (hc : c ∈ cs) : l.Fits a c :=
  ⟨h.balance c hc ▸ Amount.toNat_lt _, h.supply c hc ▸ Amount.toNat_lt _⟩

/-- Crediting other denominations does not decide whether a coin fits. -/
theorem Credits.fits_iff (h : Credits l l' a cs) (hc : ∀ b ∈ cs, b.denom ≠ c.denom) :
    l'.Fits a c ↔ l.Fits a c := by
  have hbalance : l'.balance ⟨a, c.denom⟩ = l.balance ⟨a, c.denom⟩ :=
    h.other_balance _ fun b hb heq ↦ hc b hb (congrArg Holding.denom heq).symm
  rw [Fits, Fits, hbalance, h.other_supply c.denom hc]

/-- Whether a coin fits can be told before the coins in front of it are minted. -/
theorem fits_of_mintCoins {late : List Coin}
    (hcs : (early ++ c :: late).Pairwise fun b c ↦ b.denom ≠ c.denom)
    (h : l.mintCoins a early = (l', .ok ())) : l'.Fits a c ↔ l.Fits a c := by
  obtain ⟨hearly, -, hapart⟩ := List.pairwise_append.mp hcs
  exact (credits_mintCoins hearly h).fits_iff fun b hb ↦ hapart b hb c List.mem_cons_self

/-- Coins of different denominations that all fit are minted. -/
theorem exists_mintCoins (hcs : cs.Pairwise fun b c ↦ b.denom ≠ c.denom)
    (hfits : ∀ c ∈ cs, l.Fits a c) : ∃ l', l.mintCoins a cs = (l', .ok ()) := by
  obtain ⟨l', r, hmint⟩ : ∃ l' r, l.mintCoins a cs = (l', r) := ⟨_, _, rfl⟩
  cases r with
  | ok u => exact ⟨l', hmint⟩
  | error e =>
    obtain ⟨early, c, late, rfl, hearly, hc⟩ := mintCoins_eq_error hmint
    have hfits := (fits_of_mintCoins hcs hearly).mpr (hfits c (by simp))
    exact absurd hfits (mintCoin_eq_error.mp hc).1

/-- Of coins of different denominations those before the first that does not fit are minted. -/
theorem mintCoins_of_fits {late : List Coin}
    (hcs : (early ++ c :: late).Pairwise fun b c ↦ b.denom ≠ c.denom)
    (hearly : ∀ b ∈ early, l.Fits a b) (hc : ¬ l.Fits a c) : ∃ l',
      l.mintCoins a (early ++ c :: late) = (l', .error (.overflow a c.denom)) ∧
        Credits l l' a early := by
  have hdistinct := (List.pairwise_append.mp hcs).1
  obtain ⟨l', hl'⟩ := exists_mintCoins hdistinct hearly
  have hstops : l'.mintCoin a c = .error (.overflow a c.denom) :=
    mintCoin_eq_error.mpr ⟨mt (fits_of_mintCoins hcs hl').mp hc, rfl⟩
  refine ⟨l', ?_, credits_mintCoins hdistinct hl'⟩
  rw [mintCoins_append hl', mintCoins, hstops]

/-! ## Minting -/

/-- Valid coins for a module account of which one does not fit: those before it do. -/
structure Interruption (l : Ledger) (name : String) (coins : Coins) (a : Address)
    (early : List Coin) (c : Coin) : Prop where
  valid : coins.validate = .ok ()
  address : l.moduleAddress? name = some a
  toList_eq : ∃ late, coins.toList = early ++ c :: late
  fits : ∀ b ∈ early, l.Fits a b
  not_fits : ¬ l.Fits a c

/-- Minting that is interrupted fails and has credited the coins up to there. -/
theorem mint_of_interruption (h : l.Interruption name coins a early c) : ∃ l',
    l.mint name coins = (l', .error (.overflow a c.denom)) ∧ Credits l l' a early := by
  obtain ⟨hvalid, haddress, ⟨late, hcoins⟩, hfits, hnot⟩ := h
  have hdistinct := Coins.pairwise_ne_of_validate hvalid
  rw [hcoins] at hdistinct
  obtain ⟨l', hmint, hcredits⟩ := mintCoins_of_fits hdistinct hfits hnot
  refine ⟨l', ?_, hcredits⟩
  have hready : (do checkAmount coins; l.moduleAddress name : Except LedgerError Address)
      = .ok a :=
    check_bind_eq_ok.mpr ⟨checkAmount_eq_ok.mpr hvalid, moduleAddress_eq_ok.mpr haddress⟩
  rw [mint, hready, ← hmint, hcoins]

/-- Minting that fails has changed nothing, or it has been interrupted. -/
theorem mint_eq_error (h : l.mint name coins = (l', .error e)) : l' = l ∨
    ∃ a early c, l.Interruption name coins a early c ∧ Credits l l' a early := by
  rw [mint] at h
  split at h
  · rename_i a hready
    obtain ⟨hvalid, haddress⟩ := check_bind_eq_ok.mp hready
    have hvalid := checkAmount_eq_ok.mp hvalid
    obtain ⟨early, c, late, hcoins, hearly, hc⟩ := mintCoins_eq_error h
    have hdistinct := Coins.pairwise_ne_of_validate hvalid
    rw [hcoins] at hdistinct
    have hcredits := credits_mintCoins (List.pairwise_append.mp hdistinct).1 hearly
    have hnot := mt (fits_of_mintCoins hdistinct hearly).mpr (mintCoin_eq_error.mp hc).1
    exact .inr ⟨a, early, c, ⟨hvalid, moduleAddress_eq_ok.mp haddress, ⟨late, hcoins⟩,
      fun b hb ↦ hcredits.fits hb, hnot⟩, hcredits⟩
  · exact .inl (Prod.ext_iff.mp h).1.symm

/-- Every balance and every supply is as before. -/
structure SameCoins (l l' : Ledger) : Prop where
  balance : ∀ h, l'.balance h = l.balance h
  supply : ∀ d, l'.supply d = l.supply d
  supplyRow? : ∀ d, l'.supplyRow? d = l.supplyRow? d

/-- What is promised of minting: all coins are credited to the module account, or no balance and no
supply has changed. -/
structure AllOrNothing (l : Ledger) (name : String) (coins : Coins) : Prop where
  all : ∀ l', l.mint name coins = (l', .ok ()) →
    ∃ a, l.moduleAddress? name = some a ∧ Credits l l' a coins.toList
  nothing : ∀ l' e, l.mint name coins = (l', .error e) → SameCoins l l'

/-- Minting that is not interrupted behind its first coin is all or nothing. -/
theorem allOrNothing_of_not_interrupted
    (hnot : ∀ a early c, l.Interruption name coins a early c → early = []) :
    l.AllOrNothing name coins := by
  refine ⟨fun l' hmint ↦ ?_, fun l' e hmint ↦ ?_⟩
  · obtain ⟨hvalid, a, haddress, hcoins⟩ := mint_eq_ok.mp hmint
    exact ⟨a, haddress, credits_mintCoins (Coins.pairwise_ne_of_validate hvalid) hcoins⟩
  · rcases mint_eq_error hmint with rfl | ⟨a, early, c, h, hcredits⟩
    · exact ⟨fun _ ↦ rfl, fun _ ↦ rfl, fun _ ↦ rfl⟩
    obtain rfl := hnot a early c h
    exact ⟨fun g ↦ hcredits.other_balance g (by simp), fun d ↦ hcredits.other_supply d (by simp),
      fun d ↦ hcredits.other_supplyRow? d (by simp)⟩

/-- One coin is minted or not. -/
theorem allOrNothing_of_length_le_one (h : coins.toList.length ≤ 1) (l : Ledger) (name : String) :
    l.AllOrNothing name coins := by
  refine allOrNothing_of_not_interrupted fun a early c hinterrupted ↦ ?_
  obtain ⟨late, hcoins⟩ := hinterrupted.toList_eq
  rw [hcoins, List.length_append, List.length_cons] at h
  exact List.eq_nil_of_length_eq_zero (by omega)

/-- **Minting is all or nothing**, unless it is interrupted behind its first coin. -/
theorem mint_allOrNothing_iff (l : Ledger) (name : String) (coins : Coins) :
    l.AllOrNothing name coins ↔
      ¬ ∃ a early c, l.Interruption name coins a early c ∧ early ≠ [] := by
  constructor
  · rintro ⟨-, hnothing⟩ ⟨a, early, c, h, hne⟩
    obtain ⟨b, hb⟩ := List.exists_mem_of_ne_nil early hne
    obtain ⟨l', hmint, hcredits⟩ := mint_of_interruption h
    obtain ⟨late, hcoins⟩ := h.toList_eq
    have hraised := hcredits.balance b hb
    rw [(hnothing l' _ hmint).balance] at hraised
    -- a coin that has been credited has units
    have hsound := (Coins.validate_eq_ok.mp h.valid).1 b
      (hcoins ▸ List.mem_append_left _ hb)
    exact absurd (beq_iff_eq.mpr (Nat.left_eq_add.mp hraised)) (ne_true_of_eq_false hsound.2)
  · intro hnot
    refine allOrNothing_of_not_interrupted fun a early c h ↦ ?_
    exact not_not.mp fun hne ↦ hnot ⟨a, early, c, h, hne⟩

/-- A ledger with all the units of one denomination that there can be. -/
def brimful : Ledger :=
  ((book (Book.empty.register mintModule)).mint mintModule ⟨[⟨"ufury", .greatest⟩]⟩).1

/-- One unit each of two denominations. -/
def oneOfEach : Coins := ⟨[⟨"uatom", .ofUInt64 1⟩, ⟨"ufury", .ofUInt64 1⟩]⟩

/-- The second coin does not fit, and the first has been minted. -/
theorem not_allOrNothing_brimful :
    (brimful.mint mintModule oneOfEach).2 = .error (.overflow (.ofModule mintModule) "ufury") ∧
      brimful.supply "uatom" = .zero ∧
      (brimful.mint mintModule oneOfEach).1.supply "uatom" = .ofUInt64 1 ∧
      ¬ brimful.AllOrNothing mintModule oneOfEach := by
  obtain ⟨hfails, hbefore, hafter⟩ : (brimful.mint mintModule oneOfEach).2
      = .error (.overflow (.ofModule mintModule) "ufury") ∧ brimful.supply "uatom" = .zero ∧
        (brimful.mint mintModule oneOfEach).1.supply "uatom" = .ofUInt64 1 := by
    decide +kernel
  refine ⟨hfails, hbefore, hafter, fun h ↦ ?_⟩
  have hsame := (h.nothing _ _ (Prod.ext rfl hfails)).supply "uatom"
  rw [hbefore, hafter] at hsame
  exact absurd hsame (by decide)

end Tokenomics.Ledger
