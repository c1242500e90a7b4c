import Tokenomics.Proofs.Ledger.Conservation

/-!
# Accounts stay

Whatever the rules of a ledger do, an account that is on record stays there as it is, and nobody
comes to hold anything without an account. A transfer creates the account of its recipient, and
funding does so too. Minting does not, so the modules have to have theirs from the start: they get
it when they are registered.

Both are said at once. A ledger develops into another (`Develops`) when the accounts are kept and
everyone who holds anything still has one (`Accounted`). Each operation develops the ledger, and so
does every program of them, forks and all (`develops_step`).
-/

namespace Tokenomics.Ledger

variable {l l' l'' : Ledger} {a : Address} {coins : Coins}

/-- Modules have accounts, and without an account nothing is held. -/
structure Accounted (l : Ledger) : Prop where
  modules : ∀ name a, l.moduleAddress? name = some a → (l.account? a).isSome
  balance : ∀ a, l.account? a = none → ∀ d, l.balance ⟨a, d⟩ = .zero

/-- Accounts are kept as they are, and nobody has come to hold anything without one. -/
structure Develops (l l' : Ledger) : Prop where
  account? : ∀ a x, l.account? a = some x → l'.account? a = some x
  accounted : l.Accounted → l'.Accounted
  under? : l'.under? = l.under?

theorem accounted_empty : (book .empty).Accounted := ⟨nofun, fun _ _ _ ↦ rfl⟩

/-- Whoever holds anything has an account. -/
theorem Accounted.isSome_account? (h : l.Accounted) {d : String}
    (hd : l.balance ⟨a, d⟩ ≠ .zero) : (l.account? a).isSome :=
  Option.isSome_iff_ne_none.mpr fun hnone ↦ hd (h.balance a hnone d)

namespace Develops

theorem refl (l : Ledger) : Develops l l := ⟨fun _ _ h ↦ h, id, rfl⟩

theorem trans (h : Develops l l') (h' : Develops l' l'') : Develops l l'' where
  account? a x hx := h'.account? a x (h.account? a x hx)
  accounted := h'.accounted ∘ h.accounted
  under? := h'.under?.trans h.under?

theorem isSome_account? (h : Develops l l') (ha : (l.account? a).isSome) :
    (l'.account? a).isSome := by
  obtain ⟨x, hx⟩ := Option.isSome_iff_exists.mp ha
  rw [h.account? a x hx]
  rfl

end Develops

/-! ## Single operations -/

/-- Some accounts are new, the modules are the same, and whoever is left without an account holds no
more than before. -/
theorem develops_of_reads (isNew : Address → Prop) [DecidablePred isNew]
    (haccount : ∀ a, l'.account? a = (l.account? a).or (if isNew a then some (.fresh a) else none))
    (hmodule : ∀ name, l'.moduleAddress? name = l.moduleAddress? name)
    (hbalance : l.Accounted → ∀ a d, l.account? a = none → ¬ isNew a →
      (l'.balance ⟨a, d⟩).toNat ≤ (l.balance ⟨a, d⟩).toNat)
    (hunder : l'.under? = l.under?) : Develops l l' where
  account? a x hx := by rw [haccount, hx, Option.some_or]
  accounted h := by
    refine ⟨fun name a ha ↦ ?_, fun a ha d ↦ ?_⟩
    · rw [haccount, Option.isSome_or, h.modules name a ((hmodule name).symm.trans ha),
        Bool.true_or]
    · rw [haccount, Option.or_eq_none_iff] at ha
      obtain ⟨hnone, hnew⟩ := ha
      have hle := hbalance h a d hnone fun hisNew ↦ nomatch (if_pos hisNew).symm.trans hnew
      rw [h.balance a hnone d] at hle
      exact Amount.ext (Nat.le_zero.mp hle)
  under? := hunder

theorem develops_createAccount (l : Ledger) (a : Address) : Develops l (l.createAccount a) := by
  refine develops_of_reads (· = a) (fun b ↦ ?_) (fun name ↦ ?_) (fun _ b d _ _ ↦ ?_) ?_
  · rw [account?_createAccount]
    by_cases hb : b = a
    · rw [if_pos hb, if_pos hb, hb]
    · rw [if_neg hb, if_neg hb]
  · exact read_createAccount (·.moduleAddress? name)
      (fun l x ↦ moduleAddress?_setAccount l x name) l a
  · rw [balance_createAccount]
  · exact read_createAccount Ledger.under? under?_setAccount l a

theorem develops_transfer {sender recipient : Address}
    (h : l.transfer sender recipient coins = .ok l') : Develops l l' := by
  refine develops_of_reads (fun a ↦ sender ≠ recipient ∧ a = recipient) (account?_transfer h)
    (moduleAddress?_transfer h) (fun _ a d _ hnew ↦ ?_) (under?_transfer h)
  rw [balance_transfer h]
  by_cases hself : sender = recipient
  · rw [if_pos hself]
  · have hother : a ≠ recipient := fun heq ↦ hnew ⟨hself, heq⟩
    rw [if_neg hself, if_neg hother]
    split
    · exact Nat.sub_le _ _
    · exact Nat.le_refl _

/-- A balance is not touched by what is credited to somebody else. -/
theorem balance_setBalance_of_owner_ne {m : Address} (hne : a ≠ m) (l : Ledger) (d e : String)
    (n : Amount) : (l.setBalance ⟨m, e⟩ n).balance ⟨a, d⟩ = l.balance ⟨a, d⟩ := by
  rw [balance_setBalance, if_neg fun heq ↦ hne (Holding.mk.inj heq).1]

/-- Minting credits a module, which has its account, whether it succeeds or not. -/
theorem develops_mint (l : Ledger) (name : String) (coins : Coins) :
    Develops l (l.mint name coins).1 := by
  have hunder := under?_mint l name coins
  rw [mint] at hunder ⊢
  split
  · rename_i m hm
    obtain ⟨-, hmodule⟩ := check_bind_eq_ok.mp hm
    rw [hm] at hunder
    refine develops_of_reads (fun _ ↦ False) (fun a ↦ ?_) (fun name' ↦ ?_)
      (fun h a d hnone _ ↦ ?_) hunder
    · rw [if_neg not_false, Option.or_none]
      exact read_mintCoins (·.account? a) l m (fun l _ n ↦ account?_setBalance l _ n a)
        fun c _ l n ↦ account?_setSupply l c.denom n a
    · exact read_mintCoins (·.moduleAddress? name') l m
        (fun l _ n ↦ moduleAddress?_setBalance l _ n name')
        fun c _ l n ↦ moduleAddress?_setSupply l c.denom n name'
    · have hne : a ≠ m := by
        rintro rfl
        have hhas := h.modules name a (moduleAddress_eq_ok.mp hmodule)
        rw [hnone] at hhas
        cases hhas
      refine Nat.le_of_eq (congrArg Amount.toNat ?_)
      exact read_mintCoins (·.balance ⟨a, d⟩) l m
        (fun l e n ↦ balance_setBalance_of_owner_ne hne l d e n)
        fun c _ l n ↦ balance_setSupply l c.denom n ⟨a, d⟩
  · exact .refl l

/-! ## Programs -/

/-- Whether a call leaves accounts, balances and supplies to the rules and sets none of them. -/
def Call.Ruled : Call → Prop
  | .setAccount _ | .setBalance .. | .setSupply .. => False
  | _ => True

theorem develops_accept {r : Except LedgerError Ledger}
    (hr : ∀ l', r = .ok l' → Develops l l') : Develops l (l.accept r).1 := by
  cases r with
  | ok l' => exact hr l' rfl
  | error e => exact .refl l

theorem develops_call {c : Call} (hc : c.Ruled) (l : Ledger) : Develops l (c.run l).1 := by
  cases c with
  | transfer sender recipient coins => exact develops_accept fun _ h ↦ develops_transfer h
  | sendFromModule name recipient coins =>
    refine develops_accept fun l' h ↦ ?_
    obtain ⟨sender, -, h⟩ := bind_eq_ok.mp h
    exact develops_transfer h
  | sendToModule sender name coins =>
    refine develops_accept fun l' h ↦ ?_
    obtain ⟨recipient, -, h⟩ := bind_eq_ok.mp h
    exact develops_transfer h
  | mint name coins =>
    have hmint := develops_mint l name coins
    rw [Call.run]
    split
    · rename_i hr
      rwa [hr] at hmint
    · rename_i hr
      rwa [hr] at hmint
  | createAccount a => exact develops_createAccount l a
  | setAccount x => exact hc.elim
  | setBalance h n => exact hc.elim
  | setSupply denom n => exact hc.elim

theorem develops_calls {cs : List Call} (hcs : ∀ c ∈ cs, c.Ruled) (l : Ledger) :
    Develops l (Call.runAll l cs).1 := by
  induction cs generalizing l with
  | nil => exact .refl l
  | cons c cs ih =>
    obtain ⟨hc, hcs⟩ := List.forall_mem_cons.mp hcs
    exact (develops_call hc l).trans (ih hcs _)

/-- A step develops a ledger, whatever is done on forks that are dropped. -/
theorem develops_step {s : Step} (hs : ∀ c ∈ s.keptCalls, c.Ruled) (hl : l.Keyed) :
    Develops l (s.run l).1 := by
  have hkept := congrArg Prod.fst (Step.run_eq hl s)
  dsimp only at hkept
  rw [hkept]
  exact develops_calls hs l

/-! ## Books -/

theorem moduleAddress?_register (b : Book) (name name' : String) :
    (book (b.register name)).moduleAddress? name'
      = if name' = name then some (.ofModule name) else (book b).moduleAddress? name' := by
  rw [Book.register, book_createAccount,
    read_createAccount (·.moduleAddress? name') fun l x ↦ moduleAddress?_setAccount l x name']
  exact SortedMap.get?_insert b.modules name name' _

theorem account?_register (b : Book) (name : String) (a : Address) :
    (book (b.register name)).account? a = ((book b).account? a).or
      (if a = .ofModule name then some (.fresh (.ofModule name)) else none) := by
  rw [Book.register, book_createAccount, account?_createAccount]
  rfl

/-- Registering a module puts its account on record too. -/
theorem isSome_account?_register (b : Book) (name : String) :
    ((book (b.register name)).account? (.ofModule name)).isSome := by
  rw [account?_register, if_pos rfl, Option.isSome_or, Option.isSome_some, Bool.or_true]

theorem balance_register (b : Book) (name : String) (h : Holding) :
    (book (b.register name)).balance h = (book b).balance h := by
  rw [Book.register, book_createAccount, balance_createAccount]
  rfl

theorem develops_register (b : Book) (name : String) :
    Develops (book b) (book (b.register name)) where
  account? a x hx := by rw [account?_register, hx, Option.some_or]
  accounted h := by
    refine ⟨fun name' a ha ↦ ?_, fun a ha d ↦ ?_⟩
    · rw [moduleAddress?_register] at ha
      rw [account?_register, Option.isSome_or]
      split at ha
      · rw [if_pos (Option.some.inj ha).symm, Option.isSome_some, Bool.or_true]
      · rw [h.modules name' a ha, Bool.true_or]
    · rw [account?_register, Option.or_eq_none_iff] at ha
      rw [balance_register]
      exact h.balance a ha.1 d
  under? := rfl

/-- What funding writes besides the account are balances of its owner and supplies. -/
theorem read_fund {ρ : Type} (read : Ledger → ρ) (b : Book) (owner : Address)
    (hbalance : ∀ l d n, read (setBalance l ⟨owner, d⟩ n) = read l)
    (hsupply : ∀ l d n, read (setSupply l d n) = read l) (coins : Coins) :
    read (book (b.fund owner coins)) = read ((book b).createAccount owner) := by
  rw [Book.fund, ← book_createAccount]
  generalize b.createAccount owner = b
  generalize coins.toList = cs
  induction cs generalizing b with
  | nil => rfl
  | cons c cs ih =>
    refine (ih (b.fundCoin owner c)).trans ?_
    exact (hsupply ((book b).setBalance ⟨owner, c.denom⟩ _) _ _).trans (hbalance (book b) _ _)

theorem develops_fund (b : Book) (owner : Address) (coins : Coins) :
    Develops (book b) (book (b.fund owner coins)) := by
  have hcreated := develops_createAccount (book b) owner
  refine hcreated.trans (develops_of_reads (fun _ ↦ False) (fun a ↦ ?_) (fun name ↦ ?_)
    (fun _ a d hnone _ ↦ ?_) ?_)
  · rw [if_neg not_false, Option.or_none]
    exact read_fund (·.account? a) b owner (fun l _ n ↦ account?_setBalance l _ n a)
      (fun l d n ↦ account?_setSupply l d n a) coins
  · exact read_fund (·.moduleAddress? name) b owner
      (fun l _ n ↦ moduleAddress?_setBalance l _ n name)
      (fun l d n ↦ moduleAddress?_setSupply l d n name) coins
  · have hne : a ≠ owner := by
      rintro rfl
      rw [account?_createAccount, Option.or_eq_none_iff, if_pos rfl] at hnone
      exact nomatch hnone.2
    refine Nat.le_of_eq (congrArg Amount.toNat ?_)
    exact read_fund (·.balance ⟨a, d⟩) b owner
      (fun l e n ↦ balance_setBalance_of_owner_ne hne l d e n)
      (fun l e n ↦ balance_setSupply l e n ⟨a, d⟩) coins
  · exact read_fund Ledger.under? b owner (fun l _ n ↦ under?_setBalance l _ n) under?_setSupply
      coins

end Tokenomics.Ledger
