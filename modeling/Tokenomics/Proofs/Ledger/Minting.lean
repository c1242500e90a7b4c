import Tokenomics.Proofs.Ledger.Transfers

/-!
# What minting does

Minting walks over its coins and writes as it goes. One coin that fits (`Fits`) raises a balance and
a supply by its amount (`mintCoin_eq_ok`); a whole list that fits raises every balance of the
account, and every supply, by what the list has of the denomination (`balance_mintCoins`,
`supply_mintCoins`).
-/

namespace Tokenomics.Ledger

variable {l l' : Ledger} {a : Address}

theorem mintCoin_eq_ok {c : Coin} : l.mintCoin a c = .ok l' ↔
    ∃ balance supply : Amount,
      balance.toNat = (l.balance ⟨a, c.denom⟩).toNat + c.amount.toNat ∧
      supply.toNat = (l.supply c.denom).toNat + c.amount.toNat ∧
      l' = (l.setBalance ⟨a, c.denom⟩ balance).setSupply c.denom supply := by
  rw [mintCoin]
  constructor
  · intro h
    split at h
    · rename_i balance supply hb hs
      exact ⟨balance, supply, Amount.add?_eq_some.mp hb, Amount.add?_eq_some.mp hs,
        (Except.ok.inj h).symm⟩
    · exact nomatch h
  · rintro ⟨balance, supply, hb, hs, rfl⟩
    simp only [Amount.add?_eq_some.mpr hb, Amount.add?_eq_some.mpr hs]

/-- There is room for a coin, in what an address holds of it and in the supply. -/
def Fits (l : Ledger) (a : Address) (c : Coin) : Prop :=
  (l.balance ⟨a, c.denom⟩).toNat + c.amount.toNat < 1 <<< 128 ∧
    (l.supply c.denom).toNat + c.amount.toNat < 1 <<< 128

instance (l : Ledger) (a : Address) (c : Coin) : Decidable (l.Fits a c) :=
  inferInstanceAs (Decidable (_ ∧ _))

/-- A coin that fits is minted. -/
theorem exists_mintCoin {c : Coin} : (∃ l', l.mintCoin a c = .ok l') ↔ l.Fits a c := by
  constructor
  · rintro ⟨l', h⟩
    obtain ⟨balance, supply, hbalance, hsupply, -⟩ := mintCoin_eq_ok.mp h
    exact ⟨hbalance ▸ balance.toNat_lt, hsupply ▸ supply.toNat_lt⟩
  · rintro ⟨hbalance, hsupply⟩
    exact ⟨_, mintCoin_eq_ok.mpr ⟨⟨_, hbalance⟩, ⟨_, hsupply⟩, rfl, rfl, rfl⟩⟩

theorem mintCoin_eq_error {c : Coin} {e : LedgerError} :
    l.mintCoin a c = .error e ↔ ¬ l.Fits a c ∧ e = .overflow a c.denom := by
  rw [← exists_mintCoin, mintCoin]
  split
  · simp
  · simp [eq_comm]

theorem mintCoins_cons_eq_ok {c : Coin} {cs : List Coin} :
    l.mintCoins a (c :: cs) = (l', .ok ()) ↔
      ∃ l₁, l.mintCoin a c = .ok l₁ ∧ l₁.mintCoins a cs = (l', .ok ()) := by
  rw [mintCoins]
  constructor
  · intro h
    split at h
    · rename_i l₁ hl₁
      exact ⟨l₁, hl₁, h⟩
    · exact nomatch (Prod.ext_iff.mp h).2
  · rintro ⟨l₁, hl₁, h⟩
    rw [hl₁]
    exact h

/-- A list that fits raises the account's balance of each denomination by what it has of it. -/
theorem balance_mintCoins {cs : List Coin} (h : l.mintCoins a cs = (l', .ok ())) (g : Holding) :
    (l'.balance g).toNat =
      (l.balance g).toNat + if g.owner = a then Coins.unitsIn cs g.denom else 0 := by
  induction cs generalizing l with
  | nil =>
    obtain rfl : l = l' := (Prod.ext_iff.mp h).1
    rw [Coins.unitsIn_nil, ite_self, Nat.add_zero]
  | cons c cs ih =>
    obtain ⟨l₁, hc, hcs⟩ := mintCoins_cons_eq_ok.mp h
    obtain ⟨balance, supply, hb, -, rfl⟩ := mintCoin_eq_ok.mp hc
    rw [ih hcs, balance_setSupply, balance_setBalance, Coins.unitsIn_cons]
    obtain ⟨owner, denom⟩ := g
    by_cases ha : owner = a
    · by_cases hd : denom = c.denom
      · subst ha hd
        simp [hb, Nat.add_assoc]
      · simp [ha, hd, Ne.symm hd]
    · simp [ha]

theorem supply_mintCoins {cs : List Coin} (h : l.mintCoins a cs = (l', .ok ())) (d : String) :
    (l'.supply d).toNat = (l.supply d).toNat + Coins.unitsIn cs d := by
  induction cs generalizing l with
  | nil =>
    obtain rfl : l = l' := (Prod.ext_iff.mp h).1
    rw [Coins.unitsIn_nil, Nat.add_zero]
  | cons c cs ih =>
    obtain ⟨l₁, hc, hcs⟩ := mintCoins_cons_eq_ok.mp h
    obtain ⟨balance, supply, -, hs, rfl⟩ := mintCoin_eq_ok.mp hc
    rw [ih hcs, supply_setSupply, supply_setBalance, Coins.unitsIn_cons]
    by_cases hd : d = c.denom
    · subst hd
      rw [if_pos rfl, if_pos rfl, hs, Nat.add_assoc]
    · rw [if_neg hd, if_neg (Ne.symm hd), Nat.zero_add]

/-- What minting does not write, whether it succeeds or not. -/
theorem read_mintCoins {ρ : Type} (read : Ledger → ρ) (l : Ledger) (a : Address)
    (hbalance : ∀ l d n, read (setBalance l ⟨a, d⟩ n) = read l) {cs : List Coin}
    (hsupply : ∀ c ∈ cs, ∀ l n, read (setSupply l c.denom n) = read l) :
    read (l.mintCoins a cs).1 = read l := by
  induction cs generalizing l with
  | nil => rfl
  | cons c cs ih =>
    obtain ⟨hc, hcs⟩ := List.forall_mem_cons.mp hsupply
    rw [mintCoins]
    split
    · rename_i l₁ hl₁
      obtain ⟨balance, supply, -, -, rfl⟩ := mintCoin_eq_ok.mp hl₁
      rw [ih _ hcs, hc, hbalance]
    · rfl

theorem moduleAddress_eq_ok {name : String} :
    l.moduleAddress name = .ok a ↔ l.moduleAddress? name = some a := by
  rw [moduleAddress]
  cases l.moduleAddress? name with
  | none => exact ⟨fun h ↦ (nomatch h), fun h ↦ (nomatch h)⟩
  | some b =>
    exact ⟨fun h ↦ congrArg some (Except.ok.inj h), fun h ↦ congrArg _ (Option.some.inj h)⟩

/-- Minting succeeds when the coins are valid, the module has an address, and they all fit. -/
theorem mint_eq_ok {name : String} {coins : Coins} : l.mint name coins = (l', .ok ()) ↔
    coins.validate = .ok () ∧ ∃ a, l.moduleAddress? name = some a ∧
      l.mintCoins a coins.toList = (l', .ok ()) := by
  rw [mint, ← checkAmount_eq_ok]
  split
  · rename_i a ha
    obtain ⟨hvalid, ha⟩ := check_bind_eq_ok.mp ha
    constructor
    · exact fun h ↦ ⟨hvalid, a, moduleAddress_eq_ok.mp ha, h⟩
    · rintro ⟨-, b, hb, h⟩
      obtain rfl : a = b := Option.some.inj ((moduleAddress_eq_ok.mp ha).symm.trans hb)
      exact h
  · rename_i e he
    refine ⟨fun h ↦ (nomatch (Prod.ext_iff.mp h).2), fun ⟨hvalid, a, ha, _⟩ ↦ ?_⟩
    rw [hvalid] at he
    exact nomatch he.symm.trans (moduleAddress_eq_ok.mpr ha)

theorem under?_mint (l : Ledger) (name : String) (coins : Coins) :
    (l.mint name coins).1.under? = l.under? := by
  rw [mint]
  split
  · exact read_mintCoins under? l _ (fun l _ n ↦ under?_setBalance l _ n)
      fun c _ l n ↦ under?_setSupply l c.denom n
  · rfl

end Tokenomics.Ledger
