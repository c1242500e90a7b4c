import Tokenomics.Proofs.Ledger.Minting

/-!
# Views stand for the ledgers that they commit to

Committing a view is a homomorphism: what is read from a view is what is read from the ledger it
commits to (`commit_balance` and its companions), and a write to the view commits to the same
write to that ledger (`commit_setBalance` and its companions). Transfers and minting are made of
reads and writes alone, so they commute with committing as well (`commit_transfer`,
`commit_mint`).

The one thing to watch is that accounts are written by value: a view commits to what it shows only
when its accounts stand under their own addresses (`Keyed`). Every write keeps it so.
-/

namespace Tokenomics

/-- Every account stands under its own address. -/
def WriteSet.Keyed (w : WriteSet) : Prop := ∀ e ∈ w.accounts.entries, e.2.address = e.1

namespace Ledger

/-- In every view of the ledger the accounts stand under their own addresses. -/
def Keyed : Ledger → Prop
  | .book _ => True
  | .view under w => under.Keyed ∧ w.Keyed

/-! ## Applying writes

The three parts of a set of writes are replayed one after the other. -/

/-- Replay written accounts. -/
def applyAccounts (l : Ledger) (es : List (Address × Account)) : Ledger :=
  es.foldl (fun l e ↦ l.setAccount e.2) l

/-- Replay written balances. -/
def applyBalances (l : Ledger) (es : List (Holding × Amount)) : Ledger :=
  es.foldl (fun l e ↦ l.setBalance e.1 e.2) l

/-- Replay written supplies. -/
def applySupplies (l : Ledger) (es : List (String × Amount)) : Ledger :=
  es.foldl (fun l e ↦ l.setSupply e.1 e.2) l

theorem apply_eq (l : Ledger) (w : WriteSet) :
    l.apply w = ((l.applyAccounts w.accounts.entries).applyBalances
      w.balances.entries).applySupplies w.supplies.entries := rfl

/-- Replaying keyed accounts is replaying them with their keys written into them. -/
theorem applyAccounts_eq_foldl (l : Ledger) {es : List (Address × Account)}
    (h : ∀ e ∈ es, e.2.address = e.1) :
    l.applyAccounts es = es.foldl (fun l e ↦ l.setAccount { e.2 with address := e.1 }) l := by
  induction es generalizing l with
  | nil => rfl
  | cons e es ih =>
    have he : { e.2 with address := e.1 } = e.2 := by rw [← h e List.mem_cons_self]
    rw [List.foldl_cons, he, ← ih _ fun e' he' ↦ h e' (List.mem_cons_of_mem _ he')]
    rfl

theorem applyBalances_setAccount (l : Ledger) (x : Account) (es : List (Holding × Amount)) :
    (l.setAccount x).applyBalances es = (l.applyBalances es).setAccount x := by
  rw [applyBalances, applyBalances]
  exact List.foldl_hom (fun l : Ledger ↦ l.setAccount x)
    fun l (e : Holding × Amount) ↦ setBalance_setAccount l x e.1 e.2

theorem applySupplies_setAccount (l : Ledger) (x : Account) (es : List (String × Amount)) :
    (l.setAccount x).applySupplies es = (l.applySupplies es).setAccount x := by
  rw [applySupplies, applySupplies]
  exact List.foldl_hom (fun l : Ledger ↦ l.setAccount x)
    fun l (e : String × Amount) ↦ setSupply_setAccount l x e.1 e.2

theorem applySupplies_setBalance (l : Ledger) (h : Holding) (n : Amount)
    (es : List (String × Amount)) :
    (l.setBalance h n).applySupplies es = (l.applySupplies es).setBalance h n := by
  rw [applySupplies, applySupplies]
  exact List.foldl_hom (fun l : Ledger ↦ l.setBalance h n)
    fun l (e : String × Amount) ↦ setSupply_setBalance l h n e.1 e.2

/-! ## Reading what was applied -/

section Unaffected

variable {ρ : Type} (read : Ledger → ρ)

theorem read_applyAccounts (h : ∀ l x, read (setAccount l x) = read l) (l : Ledger)
    (es : List (Address × Account)) : read (l.applyAccounts es) = read l := by
  induction es generalizing l with
  | nil => rfl
  | cons e es ih => exact (ih _).trans (h l e.2)

theorem read_applyBalances (h : ∀ l g n, read (setBalance l g n) = read l) (l : Ledger)
    (es : List (Holding × Amount)) : read (l.applyBalances es) = read l := by
  induction es generalizing l with
  | nil => rfl
  | cons e es ih => exact (ih _).trans (h l e.1 e.2)

theorem read_applySupplies (h : ∀ l d n, read (setSupply l d n) = read l) (l : Ledger)
    (es : List (String × Amount)) : read (l.applySupplies es) = read l := by
  induction es generalizing l with
  | nil => rfl
  | cons e es ih => exact (ih _).trans (h l e.1 e.2)

end Unaffected

theorem balance_apply (l : Ledger) (w : WriteSet) (h : Holding) :
    (l.apply w).balance h = (w.balances.get? h).getD (l.balance h) := by
  rw [apply_eq, read_applySupplies (·.balance h) fun l d n ↦ balance_setSupply l d n h,
    applyBalances,
    SortedMap.read_foldl balance (fun _ n ↦ n)
      (fun l k v a ↦ balance_setBalance l k a v) w.balances.sorted,
    read_applyAccounts (·.balance h) fun l x ↦ balance_setAccount l x h, Option.map_id']
  rfl

theorem supply_apply (l : Ledger) (w : WriteSet) (d : String) :
    (l.apply w).supply d = (w.supplies.get? d).getD (l.supply d) := by
  rw [apply_eq, applySupplies,
    SortedMap.read_foldl supply (fun _ n ↦ n)
      (fun l k v a ↦ supply_setSupply l k a v) w.supplies.sorted,
    read_applyBalances (·.supply d) fun l h n ↦ supply_setBalance l h n d,
    read_applyAccounts (·.supply d) fun l x ↦ supply_setAccount l x d, Option.map_id']
  rfl

theorem moduleAddress?_apply (l : Ledger) (w : WriteSet) (name : String) :
    (l.apply w).moduleAddress? name = l.moduleAddress? name := by
  rw [apply_eq,
    read_applySupplies (·.moduleAddress? name)
      fun l d n ↦ moduleAddress?_setSupply l d n name,
    read_applyBalances (·.moduleAddress? name)
      fun l h n ↦ moduleAddress?_setBalance l h n name,
    read_applyAccounts (·.moduleAddress? name)
      fun l x ↦ moduleAddress?_setAccount l x name]

theorem account?_apply (l : Ledger) {w : WriteSet} (hw : w.Keyed) (a : Address) :
    (l.apply w).account? a = (w.accounts.get? a).or (l.account? a) := by
  rw [apply_eq, read_applySupplies (·.account? a) fun l d n ↦ account?_setSupply l d n a,
    read_applyBalances (·.account? a) fun l h n ↦ account?_setBalance l h n a,
    applyAccounts_eq_foldl l hw,
    SortedMap.read_foldl account? (fun k x ↦ some { x with address := k })
      (fun l k v a ↦ account?_setAccount l { v with address := k } a) w.accounts.sorted]
  show ((w.accounts.get? a).map _).getD _ = _
  cases hx : w.accounts.get? a with
  | none => rfl
  | some x =>
    have hkey : x.address = a := hw _ (SortedMap.mem_of_lookup hx)
    rw [← hkey]
    rfl

/-! ## Committing

A book commits to itself, so all that follows holds of books as well, trivially. -/

@[simp] theorem commit_fork (l : Ledger) : l.fork.commit = l := rfl

theorem keyed_fork {l : Ledger} (h : l.Keyed) : l.fork.Keyed :=
  ⟨h, fun _ he ↦ absurd he List.not_mem_nil⟩

theorem keyed_setAccount {l : Ledger} (hl : l.Keyed) (x : Account) : (l.setAccount x).Keyed := by
  cases l with
  | book b => trivial
  | view under w =>
    refine ⟨hl.1, fun e he ↦ ?_⟩
    rcases SortedMap.mem_insertEntry he with rfl | he
    · rfl
    · exact hl.2 e he

theorem keyed_setBalance {l : Ledger} (hl : l.Keyed) (h : Holding) (n : Amount) :
    (l.setBalance h n).Keyed := by
  cases l with
  | book b => trivial
  | view under w => exact hl

theorem keyed_setSupply {l : Ledger} (hl : l.Keyed) (d : String) (n : Amount) :
    (l.setSupply d n).Keyed := by
  cases l with
  | book b => trivial
  | view under w => exact hl

@[simp] theorem commit_balance (l : Ledger) (h : Holding) : l.commit.balance h = l.balance h := by
  cases l with
  | book b => rfl
  | view under w => exact balance_apply under w h

@[simp] theorem commit_supply (l : Ledger) (d : String) : l.commit.supply d = l.supply d := by
  cases l with
  | book b => rfl
  | view under w => exact supply_apply under w d

@[simp] theorem commit_moduleAddress? (l : Ledger) (name : String) :
    l.commit.moduleAddress? name = l.moduleAddress? name := by
  cases l with
  | book b => rfl
  | view under w => exact moduleAddress?_apply under w name

theorem commit_account? {l : Ledger} (hl : l.Keyed) (a : Address) :
    l.commit.account? a = l.account? a := by
  cases l with
  | book b => rfl
  | view under w => exact account?_apply under hl.2 a

theorem commit_setSupply (l : Ledger) (d : String) (n : Amount) :
    (l.setSupply d n).commit = l.commit.setSupply d n := by
  cases l with
  | book b => rfl
  | view under w =>
    refine SortedMap.foldl_insertEntry (fun l e f hne ↦ setSupply_setSupply_comm l ?_ e.2 f.2)
      (fun l d n m ↦ setSupply_setSupply_self l d n m) d n w.supplies.sorted _
    exact fun h ↦ hne (h ▸ Std.ReflCmp.compare_self)

theorem commit_setBalance (l : Ledger) (h : Holding) (n : Amount) :
    (l.setBalance h n).commit = l.commit.setBalance h n := by
  cases l with
  | book b => rfl
  | view under w =>
    -- balances are replayed in the middle, so the new one still has to pass the supplies
    have hinsert : (under.applyAccounts w.accounts.entries).applyBalances
          (w.balances.insert h n).entries
        = ((under.applyAccounts w.accounts.entries).applyBalances
          w.balances.entries).setBalance h n := by
      refine SortedMap.foldl_insertEntry (fun l e f hne ↦ setBalance_setBalance_comm l ?_ e.2 f.2)
        (fun l g n m ↦ setBalance_setBalance_self l g n m) h n w.balances.sorted _
      exact fun h ↦ hne (h ▸ Std.ReflCmp.compare_self)
    rw [setBalance, commit, commit, apply_eq, apply_eq, hinsert, applySupplies_setBalance]

theorem commit_setAccount {l : Ledger} (hl : l.Keyed) (x : Account) :
    (l.setAccount x).commit = l.commit.setAccount x := by
  cases l with
  | book b => rfl
  | view under w =>
    have hkeyed := (keyed_setAccount hl x).2
    have hinsert : under.applyAccounts (w.accounts.insert x.address x).entries
        = (under.applyAccounts w.accounts.entries).setAccount x := by
      rw [applyAccounts_eq_foldl under hkeyed, applyAccounts_eq_foldl under hl.2]
      refine SortedMap.foldl_insertEntry
        (fun l e f hne ↦ setAccount_setAccount_comm l ?_)
        (fun l k y z ↦ setAccount_setAccount_self l (x := ⟨k, y.sequence⟩) (y := ⟨k, z.sequence⟩)
          rfl) x.address x w.accounts.sorted _
      exact fun (h : e.1 = f.1) ↦ hne (h ▸ Std.ReflCmp.compare_self)
    rw [setAccount, commit, commit, apply_eq, apply_eq, hinsert, applyBalances_setAccount,
      applySupplies_setAccount]

/-! ## Transfers and minting on views -/

theorem keyed_createAccount {l : Ledger} (hl : l.Keyed) (a : Address) :
    (l.createAccount a).Keyed := by
  rw [createAccount]
  split
  · exact hl
  · exact keyed_setAccount hl _

theorem commit_createAccount {l : Ledger} (hl : l.Keyed) (a : Address) :
    (l.createAccount a).commit = l.commit.createAccount a := by
  rw [createAccount, createAccount, hasAccount, hasAccount, commit_account? hl]
  split
  · rfl
  · exact commit_setAccount hl _

@[simp] theorem commit_moduleAddress (l : Ledger) (name : String) :
    l.commit.moduleAddress name = l.moduleAddress name := by
  rw [moduleAddress, moduleAddress, commit_moduleAddress?]

@[simp] theorem commit_checkFunds (l : Ledger) (sender : Address) :
    l.commit.checkFunds sender = l.checkFunds sender := by
  funext c
  rw [checkFunds, checkFunds, commit_balance]

@[simp] theorem commit_credited (l : Ledger) (a : Address) :
    l.commit.credited a = l.credited a := by
  funext c
  rw [credited, credited, commit_balance]

theorem keyed_foldl_move {l : Ledger} (hl : l.Keyed) (sender recipient : Address)
    (es : List (Coin × Amount)) : (es.foldl (move sender recipient) l).Keyed :=
  List.foldlRecOn (motive := Keyed) _ _ hl fun _ hl _ _ ↦
    keyed_setBalance (keyed_setBalance hl _ _) _ _

theorem commit_foldl_move (l : Ledger) (sender recipient : Address) (es : List (Coin × Amount)) :
    (es.foldl (move sender recipient) l).commit
      = es.foldl (move sender recipient) l.commit := by
  induction es generalizing l with
  | nil => rfl
  | cons e es ih =>
    rw [List.foldl_cons, List.foldl_cons, ih, move, move, commit_setBalance, commit_setBalance,
      commit_balance]

theorem commit_transfer {l : Ledger} (hl : l.Keyed) (sender recipient : Address) (coins : Coins) :
    l.commit.transfer sender recipient coins
      = (l.transfer sender recipient coins).map commit := by
  simp only [transfer, commit_checkFunds, commit_credited]
  -- the checks read the same on both sides, so they stop both at the same place or neither
  cases checkAmount coins with
  | error e => rfl
  | ok _ =>
    cases coins.toList.forM (l.checkFunds sender) with
    | error e => rfl
    | ok _ =>
      by_cases hself : sender = recipient
      · simp only [if_pos hself]
        rfl
      · simp only [if_neg hself]
        cases coins.toList.mapM (l.credited recipient) with
        | error e => rfl
        | ok credits =>
          show Except.ok _ = Except.ok _
          rw [commit_foldl_move, commit_createAccount hl]

theorem keyed_transfer {l l' : Ledger} (hl : l.Keyed) {sender recipient : Address} {coins : Coins}
    (h : l.transfer sender recipient coins = .ok l') : l'.Keyed := by
  obtain ⟨-, -, ⟨-, rfl⟩ | ⟨-, credits, -, rfl⟩⟩ := transfer_eq_ok.mp h
  · exact hl
  · exact keyed_foldl_move (keyed_createAccount hl recipient) sender recipient credits

theorem commit_sendFromModule {l : Ledger} (hl : l.Keyed) (name : String) (recipient : Address)
    (coins : Coins) :
    l.commit.sendFromModule name recipient coins
      = (l.sendFromModule name recipient coins).map commit := by
  rw [sendFromModule, sendFromModule, commit_moduleAddress]
  cases l.moduleAddress name with
  | error e => rfl
  | ok sender => exact commit_transfer hl sender recipient coins

theorem keyed_sendFromModule {l l' : Ledger} (hl : l.Keyed) {name : String} {recipient : Address}
    {coins : Coins} (h : l.sendFromModule name recipient coins = .ok l') : l'.Keyed := by
  obtain ⟨sender, -, h⟩ := bind_eq_ok.mp h
  exact keyed_transfer hl h

theorem commit_sendToModule {l : Ledger} (hl : l.Keyed) (sender : Address) (name : String)
    (coins : Coins) :
    l.commit.sendToModule sender name coins = (l.sendToModule sender name coins).map commit := by
  rw [sendToModule, sendToModule, commit_moduleAddress]
  cases l.moduleAddress name with
  | error e => rfl
  | ok recipient => exact commit_transfer hl sender recipient coins

theorem keyed_sendToModule {l l' : Ledger} (hl : l.Keyed) {sender : Address} {name : String}
    {coins : Coins} (h : l.sendToModule sender name coins = .ok l') : l'.Keyed := by
  obtain ⟨recipient, -, h⟩ := bind_eq_ok.mp h
  exact keyed_transfer hl h

theorem commit_mintCoin (l : Ledger) (a : Address) (c : Coin) :
    l.commit.mintCoin a c = (l.mintCoin a c).map commit := by
  rw [mintCoin, mintCoin, commit_balance, commit_supply]
  split
  · show Except.ok _ = Except.ok _
    rw [commit_setSupply, commit_setBalance]
  · rfl

theorem keyed_mintCoins {l : Ledger} (hl : l.Keyed) (a : Address) (cs : List Coin) :
    (l.mintCoins a cs).1.Keyed := by
  induction cs generalizing l with
  | nil => exact hl
  | cons c cs ih =>
    rw [mintCoins]
    split
    · rename_i l₁ hl₁
      obtain ⟨balance, supply, -, -, rfl⟩ := mintCoin_eq_ok.mp hl₁
      exact ih (keyed_setSupply (keyed_setBalance hl _ _) _ _)
    · exact hl

theorem commit_mintCoins (l : Ledger) (a : Address) (cs : List Coin) :
    l.commit.mintCoins a cs = ((l.mintCoins a cs).1.commit, (l.mintCoins a cs).2) := by
  induction cs generalizing l with
  | nil => rfl
  | cons c cs ih =>
    rw [mintCoins, mintCoins, commit_mintCoin]
    cases l.mintCoin a c with
    | error e => rfl
    | ok l₁ => exact ih l₁

theorem keyed_mint {l : Ledger} (hl : l.Keyed) (name : String) (coins : Coins) :
    (l.mint name coins).1.Keyed := by
  rw [mint]
  split
  · exact keyed_mintCoins hl _ _
  · exact hl

/-- Minting that stops midway has written as much to the view as to the ledger. -/
theorem commit_mint (l : Ledger) (name : String) (coins : Coins) :
    l.commit.mint name coins = ((l.mint name coins).1.commit, (l.mint name coins).2) := by
  rw [mint, mint, commit_moduleAddress]
  cases (do checkAmount coins; l.moduleAddress name : Except LedgerError Address) with
  | error e => rfl
  | ok a => exact commit_mintCoins l a coins.toList

end Ledger

end Tokenomics
