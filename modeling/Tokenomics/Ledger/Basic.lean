import Tokenomics.Ledger.Book

/-!
# Ledgers and views

A ledger is a book, or a view over another ledger. A view reads through to the ledger under it and
keeps all that is written to itself, so that it can be tried and thrown away; its writes reach the
ledger under it only when they are applied (`Ledger.commit`).

Reads and writes are defined here for both kinds; everything else is defined through them.
-/

namespace Tokenomics

/-- What has been written to a view. -/
structure WriteSet where
  accounts : SortedMap Address Account
  balances : SortedMap Holding Amount
  supplies : SortedMap String Amount
deriving DecidableEq, Inhabited

/-- No writes. -/
def WriteSet.empty : WriteSet := ⟨∅, ∅, ∅⟩

/-- Whether nothing has been written. -/
def WriteSet.isEmpty (w : WriteSet) : Bool :=
  w.accounts.isEmpty && w.balances.isEmpty && w.supplies.isEmpty

/-- A book, or a view over a ledger. -/
inductive Ledger where
  | book (b : Book)
  | view (under : Ledger) (writes : WriteSet)
deriving DecidableEq

namespace Ledger

instance : Inhabited Ledger := ⟨.book .empty⟩

/-! ## Reading -/

/-- The account at an address. -/
def account? (l : Ledger) (a : Address) : Option Account :=
  match l with
  | .book b => b.account? a
  | .view under w => (w.accounts.get? a).or (under.account? a)

/-- The address of a module account. -/
def moduleAddress? (l : Ledger) (name : String) : Option Address :=
  match l with
  | .book b => b.modules.get? name
  | .view under _ => under.moduleAddress? name

/-- The balance of a holding. -/
def balance (l : Ledger) (h : Holding) : Amount :=
  match l with
  | .book b => b.balance h
  | .view under w => (w.balances.get? h).getD (under.balance h)

/-- The supply of a denomination. -/
def supply (l : Ledger) (denom : String) : Amount :=
  match l with
  | .book b => b.supply denom
  | .view under w => (w.supplies.get? denom).getD (under.supply denom)

/-- Whether there is an account at an address. -/
def hasAccount (l : Ledger) (a : Address) : Bool := (l.account? a).isSome

/-! ## Writing -/

/-- Put an account on record. -/
def setAccount (l : Ledger) (a : Account) : Ledger :=
  match l with
  | .book b => .book (b.setAccount a)
  | .view under w => .view under { w with accounts := w.accounts.insert a.address a }

/-- Set the balance of a holding. -/
def setBalance (l : Ledger) (h : Holding) (n : Amount) : Ledger :=
  match l with
  | .book b => .book (b.setBalance h n)
  | .view under w => .view under { w with balances := w.balances.insert h n }

/-- Set the supply of a denomination. -/
def setSupply (l : Ledger) (denom : String) (n : Amount) : Ledger :=
  match l with
  | .book b => .book (b.setSupply denom n)
  | .view under w => .view under { w with supplies := w.supplies.insert denom n }

/-! ## Views -/

/-- A view over the ledger, without any writes. -/
def fork (l : Ledger) : Ledger := .view l .empty

/-- What has been written to a view; nothing for a book. -/
def writes : Ledger → WriteSet
  | .book _ => .empty
  | .view _ w => w

/-- Write all of `w` to the ledger: accounts, then balances, then supplies. -/
def apply (l : Ledger) (w : WriteSet) : Ledger :=
  let l := w.accounts.entries.foldl (fun l e ↦ l.setAccount e.2) l
  let l := w.balances.entries.foldl (fun l e ↦ l.setBalance e.1 e.2) l
  w.supplies.entries.foldl (fun l e ↦ l.setSupply e.1 e.2) l

/-- The ledger under a view with the view's writes applied to it; a book as it is. -/
def commit : Ledger → Ledger
  | .book b => .book b
  | .view under w => under.apply w

end Ledger

end Tokenomics
