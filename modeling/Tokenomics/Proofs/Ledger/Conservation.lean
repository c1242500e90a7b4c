import Mathlib.Algebra.BigOperators.Group.Finset.Piecewise
import Mathlib.Algebra.Order.BigOperators.Group.Finset
import Mathlib.Data.FinEnum
import Mathlib.Data.Fintype.Pi
import Mathlib.Logic.Relation
import Tokenomics.Proofs.Ledger.Programs

/-!
# Coins are conserved

Coins come into being when they are minted or funded, which adds them to the supply as well, and
they never go out of being. So of every denomination all addresses together hold exactly what is
supplied (`Balanced`).

## The invariant

Everything a ledger does is made of writes to single balances, and `held_setBalance` says what one
of them does to the sum over all addresses: the new balance comes in for the old one. A transfer
writes two balances for each coin, and its net effect on the sum is nothing (`held_transfer`); a
coin that is minted or funded raises one balance and the supply alike (`Balanced.credit`), also
when minting stops at a later coin. A view shows what it commits to, so committing it changes
neither side.

## What follows

Two different addresses never hold more together than is supplied, which is an amount. Hence the
credit of a transfer always fits (`Balanced.exists_credited`): once the coins are valid and the
sender has them, nothing can go wrong.
-/

namespace Tokenomics

instance : Finite Address :=
  Finite.of_injective (fun a (i : Fin 32) ↦ a.bytes[i]) fun a b h ↦ by
    cases a
    cases b
    congr 1
    ext i hi
    exact congrArg UInt8.toNat (congrFun h ⟨i, hi⟩)

noncomputable instance : Fintype Address := Fintype.ofFinite Address

namespace Ledger

open Finset

variable {l l' : Ledger} {sender recipient a : Address} {coins : Coins} {d : String}

/-- How much all addresses together hold of a denomination. -/
noncomputable def held (l : Ledger) (d : String) : Nat := ∑ a : Address, (l.balance ⟨a, d⟩).toNat

/-- Of each denomination as much is held as is supplied. -/
def Balanced (l : Ledger) : Prop := ∀ d, l.held d = (l.supply d).toNat

/-! ## The sum over all addresses -/

/-- Changes that are known for every address add up. -/
theorem held_add_sum {out into : Address → Nat} (h : ∀ a,
    (l'.balance ⟨a, d⟩).toNat + out a = (l.balance ⟨a, d⟩).toNat + into a) :
    l'.held d + ∑ a, out a = l.held d + ∑ a, into a := by
  rw [held, held, ← sum_add_distrib, ← sum_add_distrib]
  exact sum_congr rfl fun a _ ↦ h a

theorem sum_at (a : Address) (n : Nat) : ∑ b : Address, (if b = a then n else 0) = n := by
  rw [sum_ite_eq' univ a fun _ ↦ n, if_pos (mem_univ a)]

theorem held_congr (h : ∀ g, l'.balance g = l.balance g) : l'.held d = l.held d := by
  simp only [held, h]

/-- Writing a balance puts it into the sum in place of the old one. -/
theorem held_setBalance (l : Ledger) (a : Address) (d : String) (n : Amount) :
    (l.setBalance ⟨a, d⟩ n).held d + (l.balance ⟨a, d⟩).toNat = l.held d + n.toNat := by
  have hwrite : ∀ b, ((l.setBalance ⟨a, d⟩ n).balance ⟨b, d⟩).toNat
        + (if b = a then (l.balance ⟨a, d⟩).toNat else 0)
      = (l.balance ⟨b, d⟩).toNat + (if b = a then n.toNat else 0) := by
    intro b
    rw [balance_setBalance]
    by_cases hb : b = a
    · simp [hb, Nat.add_comm]
    · simp [hb]
  have hsum := held_add_sum hwrite
  rwa [sum_at, sum_at] at hsum

theorem held_setBalance_of_ne (l : Ledger) {g : Holding} (n : Amount) (h : d ≠ g.denom) :
    (l.setBalance g n).held d = l.held d := by
  have hne : ∀ a : Address, (⟨a, d⟩ : Holding) ≠ g := by
    rintro a rfl
    exact h rfl
  simp only [held, balance_setBalance, if_neg (hne _)]

theorem held_setSupply (l : Ledger) (e : String) (n : Amount) :
    (l.setSupply e n).held d = l.held d :=
  held_congr fun g ↦ balance_setSupply l e n g

/-- A transfer moves coins about and leaves the sum as it is. -/
theorem held_transfer (h : l.transfer sender recipient coins = .ok l') (d : String) :
    l'.held d = l.held d := by
  have hsum := held_add_sum fun a ↦ balance_transfer_add h a d
  rw [sum_at, sum_at] at hsum
  exact Nat.add_right_cancel hsum

/-- Two different addresses hold no more than all addresses do. -/
theorem balance_add_balance_le (l : Ledger) {a b : Address} (h : a ≠ b) (d : String) :
    (l.balance ⟨a, d⟩).toNat + (l.balance ⟨b, d⟩).toNat ≤ l.held d :=
  add_le_sum (f := fun a ↦ (l.balance ⟨a, d⟩).toNat) (fun _ _ ↦ Nat.zero_le _) (mem_univ a)
    (mem_univ b) h

/-! ## What keeps the balance -/

theorem Balanced.congr (h : l.Balanced) (hbalance : ∀ g, l'.balance g = l.balance g)
    (hsupply : ∀ d, l'.supply d = l.supply d) : l'.Balanced := by
  intro d
  rw [held_congr hbalance, hsupply, h d]

theorem Balanced.transfer (h : l.Balanced) (ht : l.transfer sender recipient coins = .ok l') :
    l'.Balanced := by
  intro d
  rw [held_transfer ht, supply_transfer ht, h d]

/-- A balance may grow by as much as the supply does. -/
theorem Balanced.credit (h : l.Balanced) {n : Nat} {balance supply : Amount}
    (hb : balance.toNat = (l.balance ⟨a, d⟩).toNat + n)
    (hs : supply.toNat = (l.supply d).toNat + n) :
    ((l.setBalance ⟨a, d⟩ balance).setSupply d supply).Balanced := by
  intro e
  rw [held_setSupply, supply_setSupply, supply_setBalance]
  by_cases he : e = d
  · subst he
    have hheld := held_setBalance l a e balance
    rw [if_pos rfl]
    have := h e
    omega
  · rw [if_neg he, held_setBalance_of_ne l balance he, h e]

theorem Balanced.mintCoin {c : Coin} (h : l.Balanced) (hc : l.mintCoin a c = .ok l') :
    l'.Balanced := by
  obtain ⟨balance, supply, hb, hs, rfl⟩ := mintCoin_eq_ok.mp hc
  exact h.credit hb hs

/-- Minting that stops midway has supplied what it has credited so far. -/
theorem Balanced.mintCoins (h : l.Balanced) (a : Address) (cs : List Coin) :
    (l.mintCoins a cs).1.Balanced := by
  induction cs generalizing l with
  | nil => exact h
  | cons c cs ih =>
    rw [Ledger.mintCoins]
    split
    · rename_i l₁ hl₁
      exact ih (h.mintCoin hl₁)
    · exact h

theorem Balanced.mint (h : l.Balanced) (name : String) (coins : Coins) :
    (l.mint name coins).1.Balanced := by
  rw [Ledger.mint]
  split
  · exact h.mintCoins _ _
  · exact h

theorem Balanced.setAccount (h : l.Balanced) (x : Account) : (l.setAccount x).Balanced :=
  h.congr (fun g ↦ balance_setAccount l x g) fun d ↦ supply_setAccount l x d

theorem Balanced.createAccount (h : l.Balanced) (a : Address) : (l.createAccount a).Balanced := by
  rw [Ledger.createAccount]
  split
  · exact h
  · exact h.setAccount _

theorem Balanced.fork (h : l.Balanced) : l.fork.Balanced :=
  h.congr (fun _ ↦ rfl) fun _ ↦ rfl

theorem Balanced.commit (h : l.Balanced) : l.commit.Balanced :=
  h.congr (commit_balance l) (commit_supply l)

/-! ## Books -/

section Books

variable {b : Book}

theorem book_createAccount (b : Book) (a : Address) :
    (book (b.createAccount a)) = (book b).createAccount a := by
  rw [Book.createAccount, Ledger.createAccount, apply_ite book]
  rfl

theorem supply_createAccount (b : Book) (a : Address) (d : String) :
    (b.createAccount a).supply d = b.supply d := by
  rw [Book.createAccount]
  split
  · rfl
  · rfl

theorem supply_register (b : Book) (name d : String) :
    (b.register name).supply d = b.supply d :=
  supply_createAccount _ _ d

theorem Balanced.register (h : (book b).Balanced) (name : String) :
    (book (b.register name)).Balanced := by
  rw [Book.register, book_createAccount]
  have hmodules : (book { b with modules := b.modules.insert name (.ofModule name) }).Balanced :=
    h.congr (fun _ ↦ rfl) fun _ ↦ rfl
  exact hmodules.createAccount _

/-- A balance has room for what its supply has room for. -/
theorem Balanced.balance_le_supply (h : l.Balanced) (a : Address) (d : String) :
    (l.balance ⟨a, d⟩).toNat ≤ (l.supply d).toNat := by
  rw [← h d]
  exact single_le_sum (f := fun a ↦ (l.balance ⟨a, d⟩).toNat) (fun _ _ ↦ Nat.zero_le _) (mem_univ a)

theorem Balanced.fundCoin {c : Coin} (h : (book b).Balanced)
    (hroom : (b.supply c.denom).toNat + c.amount.toNat < 1 <<< 128) :
    (book (b.fundCoin a c)).Balanced := by
  have hle : (b.balance ⟨a, c.denom⟩).toNat ≤ (b.supply c.denom).toNat :=
    h.balance_le_supply a c.denom
  refine h.credit (n := c.amount.toNat) ?_ ?_
  · rw [Amount.toNat_addSaturating]
    show _ = (b.balance ⟨a, c.denom⟩).toNat + _
    omega
  · show (Amount.addSaturating (b.supply c.denom) c.amount).toNat = (b.supply c.denom).toNat + _
    rw [Amount.toNat_addSaturating]
    omega

/-- Funding coins leaves the balance alone as long as the supplies have room for them. -/
theorem Balanced.fund (h : (book b).Balanced) (a : Address) {coins : Coins}
    (hroom : ∀ d, (b.supply d).toNat + Coins.unitsIn coins.toList d < 1 <<< 128) :
    (book (b.fund a coins)).Balanced := by
  have hcreated : (book (b.createAccount a)).Balanced := by
    rw [book_createAccount]
    exact h.createAccount a
  have hroom' : ∀ d, ((b.createAccount a).supply d).toNat + Coins.unitsIn coins.toList d
      < 1 <<< 128 := by
    intro d
    rw [supply_createAccount]
    exact hroom d
  rw [Book.fund]
  generalize b.createAccount a = b at hcreated hroom'
  generalize coins.toList = cs at hroom'
  -- coin by coin, there being room left for those still to come
  induction cs generalizing b with
  | nil => exact hcreated
  | cons c cs ih =>
    have hc : (b.supply c.denom).toNat + c.amount.toNat < 1 <<< 128 := by
      have := hroom' c.denom
      rw [Coins.unitsIn_cons, if_pos rfl] at this
      omega
    refine ih (b.fundCoin a c) (hcreated.fundCoin hc) fun d ↦ ?_
    have hd := hroom' d
    rw [Coins.unitsIn_cons] at hd
    have hsupply : ((b.fundCoin a c).supply d) = if d = c.denom
        then (b.supply c.denom).addSaturating c.amount else b.supply d :=
      supply_setSupply ((book b).setBalance ⟨a, c.denom⟩ _) c.denom d _
    rw [hsupply]
    by_cases hdenom : d = c.denom
    · subst hdenom
      rw [if_pos rfl] at hd ⊢
      rw [Amount.toNat_addSaturating]
      omega
    · rw [if_neg (Ne.symm hdenom)] at hd
      rw [if_neg hdenom]
      omega

end Books

/-! ## What may happen to a ledger -/

/-- Whether a call leaves the balances and supplies to the rules for moving and minting coins. -/
def Call.Lawful : Call → Prop
  | .setBalance .. | .setSupply .. => False
  | _ => True

/-- One thing that may happen to a ledger: a module is registered, coins are funded that fit, a call
is made, successful or not, or work goes on with a fork or with what the fork commits to. A fork
that is dropped has never happened. -/
inductive Change : Ledger → Ledger → Prop
  | register (b : Book) (name : String) : Change (book b) (book (b.register name))
  | fund (b : Book) (a : Address) (coins : Coins)
      (hroom : ∀ d, (b.supply d).toNat + Coins.unitsIn coins.toList d < 1 <<< 128) :
      Change (book b) (book (b.fund a coins))
  | call (l : Ledger) (c : Call) (hc : c.Lawful) : Change l (c.run l).1
  | fork (l : Ledger) : Change l l.fork
  | commit (l : Ledger) : Change l l.commit

/-- The ledgers that an empty book can come to. -/
def Arises (l : Ledger) : Prop := Relation.ReflTransGen Change (book .empty) l

theorem Balanced.accept (h : l.Balanced) {r : Except LedgerError Ledger}
    (hr : ∀ l', r = .ok l' → l'.Balanced) : (l.accept r).1.Balanced := by
  cases r with
  | ok l' => exact hr l' rfl
  | error e => exact h

theorem Balanced.run (h : l.Balanced) {c : Call} (hc : c.Lawful) : (c.run l).1.Balanced := by
  cases c with
  | transfer sender recipient coins => exact h.accept fun _ ht ↦ h.transfer ht
  | sendFromModule name recipient coins =>
    refine h.accept fun l' hsend ↦ ?_
    obtain ⟨sender, -, ht⟩ := bind_eq_ok.mp hsend
    exact h.transfer ht
  | sendToModule sender name coins =>
    refine h.accept fun l' hsend ↦ ?_
    obtain ⟨recipient, -, ht⟩ := bind_eq_ok.mp hsend
    exact h.transfer ht
  | mint name coins =>
    have hmint := h.mint name coins
    rw [Call.run]
    split
    · rename_i hr
      rwa [hr] at hmint
    · rename_i hr
      rwa [hr] at hmint
  | createAccount a => exact h.createAccount a
  | setAccount x => exact h.setAccount x
  | setBalance g n => exact hc.elim
  | setSupply d n => exact hc.elim

theorem Balanced.change (h : l.Balanced) (hl : Change l l') : l'.Balanced := by
  cases hl with
  | register b name => exact h.register name
  | fund b a coins hroom => exact h.fund a hroom
  | call l c hc => exact h.run hc
  | fork => exact h.fork
  | commit => exact h.commit

/-- What is held is what is supplied, on every ledger that an empty book can come to. -/
theorem balanced_of_arises (h : l.Arises) : l.Balanced := by
  induction h with
  | refl =>
    intro d
    have hnone : ∀ a : Address, ((book .empty).balance ⟨a, d⟩).toNat = 0 := fun _ ↦ rfl
    rw [held, sum_congr rfl fun a _ ↦ hnone a, sum_const_zero]
    rfl
  | tail _ hchange ih => exact ih.change hchange

/-! ## What can go wrong with a transfer -/

/-- The error about the first of some coins that an address holds too little of. -/
def ShortOf (l : Ledger) (a : Address) (coins : Coins) (e : LedgerError) : Prop :=
  ∃ early c late, coins.toList = early ++ c :: late ∧
    (∀ b ∈ early, b.amount ≤ l.balance ⟨a, b.denom⟩) ∧ l.balance ⟨a, c.denom⟩ < c.amount ∧
    e = .insufficientFunds a c.denom (l.balance ⟨a, c.denom⟩) c.amount

theorem checkAmount_eq_error {e : LedgerError} : checkAmount coins = .error e ↔
    ∃ cause, coins.validate = .error cause ∧ e = .invalidAmount cause := by
  rw [checkAmount]
  cases coins.validate with
  | ok u => simp
  | error cause =>
    constructor
    · intro h
      exact ⟨cause, rfl, (Except.error.inj h).symm⟩
    · rintro ⟨cause', h, rfl⟩
      rw [Except.error.inj h]

theorem checkFunds_eq_error {c : Coin} {e : LedgerError} : l.checkFunds sender c = .error e ↔
    l.balance ⟨sender, c.denom⟩ < c.amount ∧
      e = .insufficientFunds sender c.denom (l.balance ⟨sender, c.denom⟩) c.amount := by
  rw [checkFunds]
  split
  · rename_i hlt
    exact ⟨fun h ↦ ⟨hlt, (Except.error.inj h).symm⟩, fun h ↦ congrArg _ h.2.symm⟩
  · rename_i hlt
    simp [hlt]

theorem forM_checkFunds_eq_error {e : LedgerError} :
    coins.toList.forM (l.checkFunds sender) = .error e ↔ l.ShortOf sender coins e := by
  rw [forM_eq_error, ShortOf]
  simp only [checkFunds_eq_ok, checkFunds_eq_error]

/-- What a recipient is credited with, the sender has; so it fits. -/
theorem Balanced.exists_credited (h : l.Balanced) (hne : sender ≠ recipient) {c : Coin}
    (hfunds : c.amount ≤ l.balance ⟨sender, c.denom⟩) : ∃ e, l.credited recipient c = .ok e := by
  have hpair := balance_add_balance_le l hne c.denom
  have hsupply := (l.supply c.denom).toNat_lt
  rw [h c.denom] at hpair
  have hle : c.amount.toNat ≤ (l.balance ⟨sender, c.denom⟩).toNat := hfunds
  have hfits : (l.balance ⟨recipient, c.denom⟩).toNat + c.amount.toNat < 1 <<< 128 := by omega
  exact ⟨(c, ⟨_, hfits⟩), credited_eq_ok.mpr ⟨rfl, rfl⟩⟩

/-- Valid coins that the sender holds can be moved, whatever the recipient holds. -/
theorem Balanced.exists_transfer (h : l.Balanced) (hvalid : coins.validate = .ok ())
    (hfunds : ∀ c ∈ coins.toList, c.amount ≤ l.balance ⟨sender, c.denom⟩) (recipient : Address) :
    ∃ l', l.transfer sender recipient coins = .ok l' := by
  by_cases hself : sender = recipient
  · exact ⟨l, transfer_eq_ok.mpr ⟨hvalid, hfunds, .inl ⟨hself, rfl⟩⟩⟩
  · obtain ⟨credits, hcredits⟩ :=
      exists_mapM_eq_ok fun c hc ↦ h.exists_credited hself (hfunds c hc)
    exact ⟨_, transfer_eq_ok.mpr ⟨hvalid, hfunds, .inr ⟨hself, credits, hcredits, rfl⟩⟩⟩

/-- The two ways in which a transfer can fail. -/
theorem Balanced.transfer_eq_error (h : l.Balanced) {e : LedgerError} :
    l.transfer sender recipient coins = .error e ↔
      (∃ cause, coins.validate = .error cause ∧ e = .invalidAmount cause) ∨
        coins.validate = .ok () ∧ l.ShortOf sender coins e := by
  rw [← checkAmount_eq_error, ← checkAmount_eq_ok, ← forM_checkFunds_eq_error]
  cases hvalid : checkAmount coins with
  | error cause =>
    have hstop : l.transfer sender recipient coins = .error cause := by
      rw [Ledger.transfer, hvalid]
      rfl
    rw [hstop]
    simp
  | ok u =>
    cases hfunds : coins.toList.forM (l.checkFunds sender) with
    | error short =>
      have hstop : l.transfer sender recipient coins = .error short := by
        rw [Ledger.transfer, hvalid]
        show (coins.toList.forM (l.checkFunds sender) >>= _) = _
        rw [hfunds]
        rfl
      rw [hstop]
      simp
    | ok v =>
      obtain ⟨l', hl'⟩ := h.exists_transfer (checkAmount_eq_ok.mp hvalid)
        (fun c hc ↦ checkFunds_eq_ok.mp (forM_eq_ok.mp hfunds c hc)) recipient
      rw [hl']
      simp

/-- What conservation means to those who move coins. -/
structure Conserves (l : Ledger) : Prop where
  /-- All addresses together hold what is supplied. -/
  sum_balance : ∀ d, ∑ a : Address, (l.balance ⟨a, d⟩).toNat = (l.supply d).toNat
  /-- A transfer takes valid coins that the sender has, and nothing else. -/
  exists_transfer_iff : ∀ sender recipient coins,
    (∃ l', l.transfer sender recipient coins = .ok l') ↔
      coins.validate = .ok () ∧ ∀ c ∈ coins.toList, c.amount ≤ l.balance ⟨sender, c.denom⟩
  transfer_fits : ∀ sender recipient coins a d,
    l.transfer sender recipient coins ≠ .error (.overflow a d)
  sendFromModule_fits : ∀ name recipient coins a d,
    l.sendFromModule name recipient coins ≠ .error (.overflow a d)
  sendToModule_fits : ∀ sender name coins a d,
    l.sendToModule sender name coins ≠ .error (.overflow a d)

theorem Balanced.transfer_ne_overflow (h : l.Balanced) (sender recipient : Address) (coins : Coins)
    (a : Address) (d : String) : l.transfer sender recipient coins ≠ .error (.overflow a d) := by
  intro hoverflow
  obtain ⟨cause, -, he⟩ | ⟨-, early, c, late, -, -, -, he⟩ := h.transfer_eq_error.mp hoverflow
  · exact nomatch he
  · exact nomatch he

/-- Looking up a module first does not bring an overflow about. -/
theorem moduleAddress_bind_ne_overflow {f : Address → Except LedgerError Ledger}
    (hf : ∀ b, f b ≠ .error (.overflow a d)) (l : Ledger) (name : String) :
    (l.moduleAddress name >>= f) ≠ .error (.overflow a d) := by
  rw [moduleAddress]
  split
  · rename_i b _
    exact hf b
  · intro h
    simpa using Except.error.inj h

/-- **Coins are conserved.** Whatever has happened to a ledger since it was empty, its addresses
hold together what is supplied, and so no transfer fails for want of room. -/
theorem conserves_of_arises (h : l.Arises) : l.Conserves := by
  have hbalanced := balanced_of_arises h
  have hfits := hbalanced.transfer_ne_overflow
  refine ⟨hbalanced, fun sender recipient coins ↦ ⟨?_, ?_⟩, hfits,
    fun name recipient coins a d ↦ ?_, fun sender name coins a d ↦ ?_⟩
  · rintro ⟨l', hl'⟩
    obtain ⟨hvalid, hfunds, -⟩ := transfer_eq_ok.mp hl'
    exact ⟨hvalid, hfunds⟩
  · rintro ⟨hvalid, hfunds⟩
    exact hbalanced.exists_transfer hvalid hfunds recipient
  · exact moduleAddress_bind_ne_overflow (fun sender ↦ hfits sender recipient coins a d) l name
  · exact moduleAddress_bind_ne_overflow (fun recipient ↦ hfits sender recipient coins a d) l name

/-- Some coins of one denomination. -/
def furies (n : UInt64) : Coins := ⟨[⟨"ufury", .ofUInt64 n⟩]⟩

/-- An address of equal bytes. -/
def bytesOf (b : UInt8) : Address := ⟨.replicate 32 b⟩

/-- A book with one module and with coins in one account. -/
def funded (name : String) (n : UInt64) : Book :=
  (Book.empty.register name).fund (bytesOf 1) (furies n)

theorem arises_funded (name : String) (n : UInt64) : (book (funded name n)).Arises := by
  have hregistered : (book (Book.empty.register name)).Arises := .tail .refl (.register _ _)
  refine hregistered.tail (.fund _ _ _ fun d ↦ ?_)
  have hnone : (Book.empty.supply d).toNat = 0 := rfl
  rw [supply_register, hnone, Nat.zero_add, furies, Coins.unitsIn_cons, Coins.unitsIn_nil]
  split
  · exact (Amount.ofUInt64 n).toNat_lt
  · decide

/-- Sixty of a hundred coins have been moved on a fork that was committed, after minting that
stopped at its second coin. -/
def interruptedMinting : Ledger :=
  let minted := ((Call.mint mintModule ⟨[⟨"uatom", .ofUInt64 5⟩, ⟨"ufury", .greatest⟩]⟩).run
    (book (funded mintModule 100))).1
  ((Call.transfer (bytesOf 1) (bytesOf 2) (furies 60)).run minted.fork).1.commit

theorem conserves_of_arises_interruptedMinting : interruptedMinting.Arises ∧
    (interruptedMinting.balance ⟨bytesOf 2, "ufury"⟩ = .ofUInt64 60 ∧
      interruptedMinting.supply "uatom" = .ofUInt64 5) ∧ interruptedMinting.Conserves := by
  have harises : interruptedMinting.Arises :=
    ((((arises_funded mintModule 100).tail (.call _ (.mint _ _) trivial)).tail (.fork _)).tail
      (.call _ (.transfer _ _ _) trivial)).tail (.commit _)
  exact ⟨harises, by decide +kernel, conserves_of_arises harises⟩

end Ledger

end Tokenomics
