import Tokenomics.Address.Data
import Tokenomics.Coin.Data

/-!
# The book

The committed state of a ledger: accounts, balances, supply, and the addresses of module accounts.
A balance of zero has no entry; a supply of zero may have one.
-/

namespace Tokenomics

/-- An account on record. -/
structure Account where
  address : Address
  /-- How many transactions the account has signed. -/
  sequence : UInt64
deriving DecidableEq, Inhabited

/-- An account without a history. -/
def Account.fresh (address : Address) : Account := ⟨address, 0⟩

instance : Codec Account where
  encode a := .record [("address", Codec.encode a.address), ("sequence", Codec.encode a.sequence)]
  decode? d := do
    let [some address, some sequence] ← d.fields? ["address", "sequence"] | none
    return ⟨← Codec.decode? address, ← Codec.decode? sequence⟩

/-- What a balance is held of, and by whom. Holdings are ordered by owner, then denomination. -/
structure Holding where
  owner : Address
  denom : String
deriving DecidableEq, Inhabited

namespace Holding

instance : Ord Holding := ⟨compareLex (compareOn owner) (compareOn denom)⟩

instance : Std.TransOrd Holding :=
  inferInstanceAs (Std.TransCmp (compareLex (compareOn owner) (compareOn denom)))

instance : Std.LawfulEqOrd Holding where
  eq_of_compare {a b} h := by
    have h' := Ordering.then_eq_eq.mp (show (compare a.owner b.owner).then
      (compare a.denom b.denom) = .eq from h)
    cases a
    cases b
    simp_all

end Holding

/-- The committed state of a ledger. -/
structure Book where
  accounts : SortedMap Address Account
  balances : SortedMap Holding Amount
  supplies : SortedMap String Amount
  modules : SortedMap String Address
deriving DecidableEq, Inhabited

namespace Book

/-- Nothing on record. -/
def empty : Book := ⟨∅, ∅, ∅, ∅⟩

/-- The account at an address. -/
def account? (b : Book) (a : Address) : Option Account := b.accounts.get? a

/-- Put an account on record. -/
def setAccount (b : Book) (a : Account) : Book :=
  { b with accounts := b.accounts.insert a.address a }

/-- The balance of a holding. -/
def balance (b : Book) (h : Holding) : Amount := (b.balances.get? h).getD .zero

/-- Set the balance of a holding. -/
def setBalance (b : Book) (h : Holding) (n : Amount) : Book :=
  { b with balances := if n.isZero then b.balances.erase h else b.balances.insert h n }

/-- The supply of a denomination. -/
def supply (b : Book) (denom : String) : Amount := (b.supplies.get? denom).getD .zero

/-- Set the supply of a denomination. -/
def setSupply (b : Book) (denom : String) (n : Amount) : Book :=
  { b with supplies := b.supplies.insert denom n }

/-- The book with an account at an address, a fresh one if there was none. -/
def createAccount (b : Book) (a : Address) : Book :=
  if (b.account? a).isSome then b else b.setAccount (.fresh a)

/-- Register a module account under the address derived from its name. -/
def register (b : Book) (name : String) : Book :=
  let a := Address.ofModule name
  createAccount { b with modules := b.modules.insert name a } a

/-- Credit one coin out of nothing, up to the largest amounts. -/
def fundCoin (a : Address) (b : Book) (c : Coin) : Book :=
  let h : Holding := ⟨a, c.denom⟩
  let b := b.setBalance h ((b.balance h).addSaturating c.amount)
  b.setSupply c.denom ((b.supply c.denom).addSaturating c.amount)

/-- Credit coins out of nothing, creating the account if there is none. -/
def fund (b : Book) (a : Address) (coins : Coins) : Book :=
  coins.toList.foldl (fundCoin a) (b.createAccount a)

/-- All that an address holds. -/
def holdings (b : Book) (a : Address) : Coins :=
  .normalized ((b.balances.entries.filter (·.1.owner == a)).map fun e ↦ ⟨e.1.denom, e.2⟩)

end Book

/-- The module account that receives fees and staking rewards. -/
def feeCollector : String := "fee_collector"

/-- The module account that new coins are credited to. -/
def mintModule : String := "mint"

/-- The module account of the community pool. -/
def communityPool : String := "distribution"

/-- The book that a chain starts from. -/
def Book.standard : Book := [feeCollector, mintModule, communityPool].foldl Book.register .empty

theorem Book.standard_eq : Book.standard
    = ((Book.empty.register feeCollector).register mintModule).register communityPool := rfl

end Tokenomics
