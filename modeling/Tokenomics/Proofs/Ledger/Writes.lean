import Tokenomics.Ledger.Transfer
import Tokenomics.Proofs.SortedMap

/-!
# Single writes to a ledger

What is read after a write, and what two writes do: in one place the later one stands, and in
different places the order does not matter. Both hold of books, where a balance of zero is
removed, and of views, where it is kept.
-/

namespace Tokenomics

theorem Book.setBalance_eq_assign (b : Book) (h : Holding) (n : Amount) :
    b.setBalance h n
      = { b with balances := b.balances.assign h (if n.isZero then none else some n) } := by
  rw [Book.setBalance]
  split <;> rfl

namespace Ledger

/-- The entry for a denomination in the table of supplies, which may be there with no units. -/
def supplyRow? (l : Ledger) (d : String) : Option Amount :=
  match l with
  | .book b => b.supplies.get? d
  | .view under w => (w.supplies.get? d).or (under.supplyRow? d)

/-- The ledger under a view; none for a book. -/
def under? : Ledger → Option Ledger
  | .book _ => none
  | .view under _ => some under

theorem exists_eq_book {l : Ledger} (h : l.under? = none) : ∃ b, l = .book b := by
  cases l with
  | book b => exact ⟨b, rfl⟩
  | view under w => exact nomatch h

/-! ## Reading after a write -/

theorem balance_setBalance (l : Ledger) (h g : Holding) (n : Amount) :
    (l.setBalance h n).balance g = if g = h then n else l.balance g := by
  cases l with
  | book b =>
    rw [setBalance, balance, Book.setBalance_eq_assign, Book.balance, SortedMap.get?_assign]
    -- an amount of zero is not kept, and reads as zero all the same
    by_cases hg : g = h
    · rw [if_pos hg, if_pos hg]
      by_cases hn : n.isZero
      · rw [if_pos hn]
        exact Amount.ext (beq_iff_eq.mp hn).symm
      · rw [if_neg hn]
        rfl
    · rw [if_neg hg, if_neg hg]
      rfl
  | view under w =>
    rw [setBalance, balance, SortedMap.get?_insert]
    by_cases hg : g = h
    · rw [if_pos hg, if_pos hg]
      rfl
    · rw [if_neg hg, if_neg hg]
      rfl

theorem supply_setSupply (l : Ledger) (d e : String) (n : Amount) :
    (l.setSupply d n).supply e = if e = d then n else l.supply e := by
  by_cases he : e = d
  · cases l <;> simp only [setSupply, supply, Book.setSupply, Book.supply, SortedMap.get?_insert,
      if_pos he, Option.getD_some]
  · cases l <;> simp only [setSupply, supply, Book.setSupply, Book.supply, SortedMap.get?_insert,
      if_neg he]

theorem account?_setAccount (l : Ledger) (x : Account) (a : Address) :
    (l.setAccount x).account? a = if a = x.address then some x else l.account? a := by
  by_cases ha : a = x.address
  · cases l <;> simp only [setAccount, account?, Book.setAccount, Book.account?,
      SortedMap.get?_insert, if_pos ha, Option.some_or]
  · cases l <;> simp only [setAccount, account?, Book.setAccount, Book.account?,
      SortedMap.get?_insert, if_neg ha]

theorem supplyRow?_setSupply (l : Ledger) (d e : String) (n : Amount) :
    (l.setSupply d n).supplyRow? e = if e = d then some n else l.supplyRow? e := by
  by_cases he : e = d
  · cases l <;> simp only [setSupply, supplyRow?, Book.setSupply, SortedMap.get?_insert,
      if_pos he, Option.some_or]
  · cases l <;> simp only [setSupply, supplyRow?, Book.setSupply, SortedMap.get?_insert,
      if_neg he]

@[simp] theorem balance_setAccount (l : Ledger) (x : Account) (h : Holding) :
    (l.setAccount x).balance h = l.balance h := by
  cases l <;> rfl

@[simp] theorem balance_setSupply (l : Ledger) (d : String) (n : Amount) (h : Holding) :
    (l.setSupply d n).balance h = l.balance h := by
  cases l <;> rfl

@[simp] theorem supply_setAccount (l : Ledger) (x : Account) (d : String) :
    (l.setAccount x).supply d = l.supply d := by
  cases l <;> rfl

@[simp] theorem supply_setBalance (l : Ledger) (h : Holding) (n : Amount) (d : String) :
    (l.setBalance h n).supply d = l.supply d := by
  cases l <;> rfl

@[simp] theorem supplyRow?_setAccount (l : Ledger) (x : Account) (d : String) :
    (l.setAccount x).supplyRow? d = l.supplyRow? d := by
  cases l <;> rfl

@[simp] theorem supplyRow?_setBalance (l : Ledger) (h : Holding) (n : Amount) (d : String) :
    (l.setBalance h n).supplyRow? d = l.supplyRow? d := by
  cases l <;> rfl

@[simp] theorem account?_setBalance (l : Ledger) (h : Holding) (n : Amount) (a : Address) :
    (l.setBalance h n).account? a = l.account? a := by
  cases l <;> rfl

@[simp] theorem account?_setSupply (l : Ledger) (d : String) (n : Amount) (a : Address) :
    (l.setSupply d n).account? a = l.account? a := by
  cases l <;> rfl

@[simp] theorem moduleAddress?_setAccount (l : Ledger) (x : Account) (name : String) :
    (l.setAccount x).moduleAddress? name = l.moduleAddress? name := by
  cases l <;> rfl

@[simp] theorem moduleAddress?_setBalance (l : Ledger) (h : Holding) (n : Amount)
    (name : String) : (l.setBalance h n).moduleAddress? name = l.moduleAddress? name := by
  cases l <;> rfl

@[simp] theorem moduleAddress?_setSupply (l : Ledger) (d : String) (n : Amount) (name : String) :
    (l.setSupply d n).moduleAddress? name = l.moduleAddress? name := by
  cases l <;> rfl

@[simp] theorem under?_setAccount (l : Ledger) (x : Account) :
    (l.setAccount x).under? = l.under? := by
  cases l <;> rfl

@[simp] theorem under?_setBalance (l : Ledger) (h : Holding) (n : Amount) :
    (l.setBalance h n).under? = l.under? := by
  cases l <;> rfl

@[simp] theorem under?_setSupply (l : Ledger) (d : String) (n : Amount) :
    (l.setSupply d n).under? = l.under? := by
  cases l <;> rfl

/-! ## Two writes -/

theorem setBalance_setBalance_self (l : Ledger) (h : Holding) (n m : Amount) :
    (l.setBalance h n).setBalance h m = l.setBalance h m := by
  cases l with
  | book b =>
    rw [setBalance, setBalance, setBalance, Book.setBalance_eq_assign, Book.setBalance_eq_assign,
      Book.setBalance_eq_assign, SortedMap.assign_assign_self]
  | view under w =>
    rw [setBalance, setBalance, setBalance, SortedMap.insert_eq_assign,
      SortedMap.insert_eq_assign, SortedMap.insert_eq_assign, SortedMap.assign_assign_self]

theorem setBalance_setBalance_comm (l : Ledger) {g h : Holding} (hne : g ≠ h) (n m : Amount) :
    (l.setBalance g n).setBalance h m = (l.setBalance h m).setBalance g n := by
  cases l with
  | book b =>
    simp only [setBalance, Book.setBalance_eq_assign, SortedMap.assign_assign_comm _ hne]
  | view under w =>
    simp only [setBalance, SortedMap.insert_eq_assign, SortedMap.assign_assign_comm _ hne]

theorem setSupply_setSupply_self (l : Ledger) (d : String) (n m : Amount) :
    (l.setSupply d n).setSupply d m = l.setSupply d m := by
  cases l <;> simp only [setSupply, Book.setSupply, SortedMap.insert_eq_assign,
    SortedMap.assign_assign_self]

theorem setSupply_setSupply_comm (l : Ledger) {c d : String} (hne : c ≠ d) (n m : Amount) :
    (l.setSupply c n).setSupply d m = (l.setSupply d m).setSupply c n := by
  cases l <;> simp only [setSupply, Book.setSupply, SortedMap.insert_eq_assign,
    SortedMap.assign_assign_comm _ hne]

theorem setAccount_setAccount_self (l : Ledger) {x y : Account} (h : x.address = y.address) :
    (l.setAccount x).setAccount y = l.setAccount y := by
  cases l <;> simp only [setAccount, Book.setAccount, SortedMap.insert_eq_assign, h,
    SortedMap.assign_assign_self]

theorem setAccount_setAccount_comm (l : Ledger) {x y : Account} (h : x.address ≠ y.address) :
    (l.setAccount x).setAccount y = (l.setAccount y).setAccount x := by
  cases l <;> simp only [setAccount, Book.setAccount, SortedMap.insert_eq_assign,
    SortedMap.assign_assign_comm _ h]

theorem setBalance_setAccount (l : Ledger) (x : Account) (h : Holding) (n : Amount) :
    (l.setAccount x).setBalance h n = (l.setBalance h n).setAccount x := by
  cases l <;> rfl

theorem setSupply_setAccount (l : Ledger) (x : Account) (d : String) (n : Amount) :
    (l.setAccount x).setSupply d n = (l.setSupply d n).setAccount x := by
  cases l <;> rfl

theorem setSupply_setBalance (l : Ledger) (h : Holding) (n : Amount) (d : String) (m : Amount) :
    (l.setBalance h n).setSupply d m = (l.setSupply d m).setBalance h n := by
  cases l <;> rfl

end Ledger

end Tokenomics
