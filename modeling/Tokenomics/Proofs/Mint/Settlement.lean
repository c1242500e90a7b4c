import Tokenomics.Mint.Keeper
import Tokenomics.Proofs.Ledger.Views

/-!
# What settling an emission does to the ledger

A block is settled on a view, which is then committed; that comes to the same as minting and
paying on the ledger itself (`commit_settle`). There every payment moves coins out of the mint's
account, perhaps back into it, and what is minted first is exactly what is paid out. So in the end
the mint's account is where it was, apart from what it pays to itself: every address has what was
paid to it and nothing else (`settled_settle`).
-/

namespace Tokenomics

open Ledger

namespace Keeper

/-! ## On a view and on the ledger under it -/

theorem resolve_commit (l : Ledger) (r : Recipient) : resolve l.commit r = resolve l r := by
  cases r with
  | account a => rfl
  | moduleAccount name => exact commit_moduleAddress l name

theorem pay_eq_ok {l l' : Ledger} {x : Payment} : pay l x = .ok l' ↔
    ∃ recipient mint, resolve l x.recipient = .ok recipient ∧
      l.moduleAddress? mintModule = some mint ∧
      l.transfer mint recipient (.single x.amount.denom x.amount.amount) = .ok l' := by
  rw [pay, bind_eq_ok]
  refine exists_congr fun recipient ↦ ?_
  rw [sendFromModule, bind_eq_ok, exists_and_left]
  refine and_congr_right fun _ ↦ exists_congr fun mint ↦ and_congr_left fun _ ↦ ?_
  exact moduleAddress_eq_ok

theorem commit_pay {l : Ledger} (hl : l.Keyed) (x : Payment) :
    pay l.commit x = (pay l x).map commit := by
  rw [pay, pay, resolve_commit]
  cases resolve l x.recipient with
  | error e => rfl
  | ok recipient => exact commit_sendFromModule hl _ _ _

theorem keyed_pay {l l' : Ledger} (hl : l.Keyed) {x : Payment} (h : pay l x = .ok l') :
    l'.Keyed := by
  obtain ⟨recipient, mint, -, -, h⟩ := pay_eq_ok.mp h
  exact keyed_transfer hl h

theorem commit_foldlM_pay {l : Ledger} (hl : l.Keyed) (xs : List Payment) :
    xs.foldlM pay l.commit = (xs.foldlM pay l).map commit := by
  induction xs generalizing l with
  | nil => rfl
  | cons x xs ih =>
    rw [List.foldlM_cons, List.foldlM_cons, commit_pay hl]
    cases hpay : pay l x with
    | error e => rfl
    | ok l₁ => exact ih (keyed_pay hl hpay)

theorem mintTotal_eq_ok {l l' : Ledger} {denom : String} {total : Amount} :
    mintTotal l denom total = .ok l' ↔ total.isZero = true ∧ l' = l ∨
      ¬ total.isZero = true ∧ l.mint mintModule (.single denom total) = (l', .ok ()) := by
  rw [mintTotal]
  split
  · rename_i hzero
    exact ⟨fun h ↦ .inl ⟨hzero, (Except.ok.inj h).symm⟩,
      fun h ↦ h.elim (fun h ↦ congrArg _ h.2.symm) fun h ↦ absurd hzero h.1⟩
  · rename_i hzero
    rw [or_iff_right fun h ↦ hzero h.1, and_iff_right hzero]
    split
    · rename_i l₁ hmint
      rw [hmint]
      exact ⟨fun h ↦ by rw [Except.ok.inj h], fun h ↦ congrArg _ (Prod.ext_iff.mp h).1⟩
    · rename_i l₁ cause hmint
      rw [hmint]
      exact ⟨fun h ↦ (nomatch h), fun h ↦ (nomatch (Prod.ext_iff.mp h).2)⟩

theorem mintTotal_eq_error {l : Ledger} {denom : String} {total : Amount} {cause : LedgerError} :
    mintTotal l denom total = .error cause ↔ ¬ total.isZero = true ∧
      ∃ l', l.mint mintModule (.single denom total) = (l', .error cause) := by
  rw [mintTotal]
  split
  · rename_i hzero
    exact ⟨fun h ↦ (nomatch h), fun h ↦ absurd hzero h.1⟩
  · rename_i hzero
    rw [and_iff_right hzero]
    split
    · rename_i l₁ hmint
      rw [hmint]
      exact ⟨fun h ↦ (nomatch h), fun ⟨l', h⟩ ↦ (nomatch (Prod.ext_iff.mp h).2)⟩
    · rename_i l₁ cause₁ hmint
      rw [hmint]
      constructor
      · intro h
        exact ⟨l₁, by rw [Except.error.inj h]⟩
      · rintro ⟨l', h⟩
        exact congrArg _ (Except.error.inj (Prod.ext_iff.mp h).2)

theorem commit_mintTotal (l : Ledger) (denom : String) (total : Amount) :
    mintTotal l.commit denom total = (mintTotal l denom total).map commit := by
  rw [mintTotal, mintTotal, commit_mint]
  split
  · rfl
  · rcases l.mint mintModule (.single denom total) with ⟨l', _ | _⟩
    · rfl
    · rfl

theorem keyed_mintTotal {l l' : Ledger} (hl : l.Keyed) {denom : String} {total : Amount}
    (h : mintTotal l denom total = .ok l') : l'.Keyed := by
  have hkeyed := keyed_mint hl mintModule (.single denom total)
  obtain ⟨-, rfl⟩ | ⟨-, hmint⟩ := mintTotal_eq_ok.mp h
  · exact hl
  · rwa [hmint] at hkeyed

/-- Settling on a view and committing it is minting and paying on the ledger itself. -/
theorem commit_settle {l : Ledger} (hl : l.Keyed) (denom : String) (e : Emission) :
    (settle l denom e).map commit
      = (mintTotal l denom e.total >>= e.payments.foldlM pay) := by
  have hfork := commit_mintTotal l.fork denom e.total
  rw [commit_fork] at hfork
  rw [settle, hfork]
  cases hmint : mintTotal l.fork denom e.total with
  | error e => rfl
  | ok l₁ => exact (commit_foldlM_pay (keyed_mintTotal (keyed_fork hl) hmint) e.payments).symm

/-! ## Where payments go -/

/-- Whether a payment goes to an address. -/
def paysTo (l : Ledger) (a : Address) (x : Payment) : Bool :=
  (resolve l x.recipient).toOption = some a

/-- How many units of a denomination some payments pay to an address. -/
def paidTo (l : Ledger) (xs : List Payment) (a : Address) (d : String) : Nat :=
  Coins.unitsIn ((xs.filter (paysTo l a)).map (·.amount)) d

/-- How many units of a denomination some payments pay in all. -/
def paidIn (xs : List Payment) (d : String) : Nat := Coins.unitsIn (xs.map (·.amount)) d

theorem resolve_congr {l l' : Ledger}
    (h : ∀ name, l'.moduleAddress? name = l.moduleAddress? name) (r : Recipient) :
    resolve l' r = resolve l r := by
  cases r with
  | account a => rfl
  | moduleAccount name =>
    rw [resolve, resolve, Ledger.moduleAddress, Ledger.moduleAddress, h]

theorem paysTo_congr {l l' : Ledger}
    (h : ∀ name, l'.moduleAddress? name = l.moduleAddress? name) : paysTo l' = paysTo l := by
  funext a x
  rw [paysTo, paysTo, resolve_congr h]

theorem paidTo_congr {l l' : Ledger}
    (h : ∀ name, l'.moduleAddress? name = l.moduleAddress? name) : paidTo l' = paidTo l := by
  funext xs a d
  rw [paidTo, paidTo, paysTo_congr h]

theorem paidTo_append (l : Ledger) (xs ys : List Payment) (a : Address) (d : String) :
    paidTo l (xs ++ ys) a d = paidTo l xs a d + paidTo l ys a d := by
  rw [paidTo, List.filter_append, List.map_append, Coins.unitsIn_append]
  rfl

theorem paidIn_append (xs ys : List Payment) (d : String) :
    paidIn (xs ++ ys) d = paidIn xs d + paidIn ys d := by
  rw [paidIn, List.map_append, Coins.unitsIn_append]
  rfl

/-! ## What minting and paying come to -/

/-- What `mint`, the mint's account, mints to itself and pays out of itself: `minted` says how much
of each denomination is new. All other changes to balances are payments, and the only new accounts
are those of addresses that were paid. -/
structure Settled (mint : Address) (l : Ledger) (minted : String → Nat) (xs : List Payment)
    (l' : Ledger) : Prop where
  balance : ∀ a d, (l'.balance ⟨a, d⟩).toNat + (if a = mint then paidIn xs d else 0)
    = (l.balance ⟨a, d⟩).toNat + (if a = mint then minted d else 0) + paidTo l xs a d
  supply : ∀ d, (l'.supply d).toNat = (l.supply d).toNat + minted d
  supplyEntry : ∀ d, minted d = 0 → l'.supplyRow? d = l.supplyRow? d
  account : ∀ a, l'.account? a
    = (l.account? a).or (if xs.any (paysTo l a) then some (.fresh a) else none)
  moduleAddress : ∀ name, l'.moduleAddress? name = l.moduleAddress? name
  under : l'.under? = l.under?

variable {mint : Address} {l l₁ l₂ l' : Ledger}

theorem settled_nil (mint : Address) (l : Ledger) : Settled mint l (fun _ ↦ 0) [] l where
  balance a d := by
    show _ + (if a = mint then 0 else 0) = _
    rw [ite_self]
    rfl
  supply _ := rfl
  supplyEntry _ _ := rfl
  account a := by rw [List.any_nil, if_neg Bool.false_ne_true, Option.or_none]
  moduleAddress _ := rfl
  under := rfl

/-- One after the other, what is minted adds up and what is paid is paid in turn. -/
theorem Settled.trans {m n : String → Nat} {xs ys : List Payment} (h : Settled mint l m xs l₁)
    (h' : Settled mint l₁ n ys l₂) : Settled mint l (fun d ↦ m d + n d) (xs ++ ys) l₂ where
  balance a d := by
    have hfirst := h.balance a d
    have hsecond := h'.balance a d
    rw [paidTo_congr h.moduleAddress] at hsecond
    rw [paidTo_append, paidIn_append]
    -- only the mint's own account has anything minted to it and paid out of it
    by_cases ha : a = mint
    · rw [if_pos ha] at hfirst hsecond ⊢
      rw [if_pos ha] at hfirst hsecond ⊢
      omega
    · rw [if_neg ha] at hfirst hsecond ⊢
      rw [if_neg ha] at hfirst hsecond ⊢
      omega
  supply d := by rw [h'.supply, h.supply, Nat.add_assoc]
  supplyEntry d hd := by
    obtain ⟨hm, hn⟩ := Nat.add_eq_zero_iff.mp hd
    rw [h'.supplyEntry d hn, h.supplyEntry d hm]
  account a := by
    rw [h'.account, h.account, paysTo_congr h.moduleAddress, List.any_append, Option.or_assoc]
    cases xs.any (paysTo l a) with
    | false => rfl
    | true => rfl
  moduleAddress name := by rw [h'.moduleAddress, h.moduleAddress]
  under := by rw [h'.under, h.under]

/-! ## One payment -/

theorem paysTo_eq_true {x : Payment} {recipient : Address}
    (h : resolve l x.recipient = .ok recipient) (a : Address) :
    paysTo l a x = true ↔ recipient = a := by
  rw [paysTo, h, decide_eq_true_eq]
  exact Option.some_inj

theorem paidIn_singleton (x : Payment) (d : String) :
    paidIn [x] d = if x.amount.denom = d then x.amount.amount.toNat else 0 := by
  rw [paidIn, List.map_singleton, Coins.unitsIn_cons, Coins.unitsIn_nil, Nat.add_zero]

theorem paidTo_singleton {x : Payment} {recipient : Address}
    (h : resolve l x.recipient = .ok recipient) (a : Address) (d : String) :
    paidTo l [x] a d = if recipient = a then paidIn [x] d else 0 := by
  by_cases ha : recipient = a
  · rw [if_pos ha, paidTo, List.filter_cons_of_pos ((paysTo_eq_true h a).mpr ha), List.filter_nil]
    rfl
  · rw [if_neg ha, paidTo, List.filter_cons_of_neg fun hp ↦ ha ((paysTo_eq_true h a).mp hp),
      List.filter_nil]
    rfl

/-- A payment moves what it pays from the mint's account to its recipient, also when the two are
one. -/
theorem settled_pay {x : Payment} (h : pay l x = .ok l')
    (hmint : l.moduleAddress? mintModule = some mint) (hhas : (l.account? mint).isSome) :
    Settled mint l (fun _ ↦ 0) [x] l' := by
  obtain ⟨recipient, mint', hr, hmint', h⟩ := pay_eq_ok.mp h
  obtain rfl : mint = mint' := Option.some.inj (hmint.symm.trans hmint')
  refine ⟨fun a d ↦ ?_, fun d ↦ congrArg Amount.toNat (supply_transfer h d),
    fun d _ ↦ supplyRow?_transfer h d, fun a ↦ ?_, moduleAddress?_transfer h,
    under?_transfer h⟩
  · have hbalance := balance_transfer h ⟨a, d⟩
    have hfunds := unitsIn_le_of_transfer h d
    simp only [Coins.unitsIn_single, ← paidIn_singleton] at hbalance hfunds
    rw [paidTo_singleton hr, ite_self, Nat.add_zero, hbalance]
    by_cases hself : mint = recipient
    · -- what the mint pays to itself is on both sides of the balance
      subst hself
      by_cases ha : a = mint
      · simp [ha]
      · simp [ha, Ne.symm ha]
    · by_cases ha : a = mint
      · subst ha
        rw [if_neg hself, if_pos rfl, if_pos rfl, if_neg (Ne.symm hself)]
        omega
      · by_cases har : a = recipient
        · subst har
          simp [hself, ha]
        · simp [hself, ha, har, Ne.symm har]
  · rw [account?_transfer h, List.any_cons, List.any_nil, Bool.or_false]
    by_cases ha : recipient = a
    · subst ha
      by_cases hself : mint = recipient
      · -- nothing is created for a payment to the mint itself, which has an account
        subst hself
        rw [Option.or_of_isSome hhas, Option.or_of_isSome hhas]
      · rw [if_pos ⟨hself, rfl⟩, if_pos ((paysTo_eq_true hr recipient).mpr rfl)]
    · rw [if_neg fun hne ↦ ha hne.2.symm, if_neg fun hp ↦ ha ((paysTo_eq_true hr a).mp hp)]

/-! ## All payments of an emission -/

theorem settled_foldlM_pay {xs : List Payment} (h : xs.foldlM pay l = .ok l')
    (hmint : l.moduleAddress? mintModule = some mint) (hhas : (l.account? mint).isSome) :
    Settled mint l (fun _ ↦ 0) xs l' := by
  induction xs generalizing l with
  | nil =>
    obtain rfl : l = l' := Except.ok.inj h
    exact settled_nil mint l
  | cons x xs ih =>
    rw [List.foldlM_cons] at h
    obtain ⟨l₁, hx, hxs⟩ := bind_eq_ok.mp h
    have hfirst := settled_pay hx hmint hhas
    -- the mint still has its account, so the next payment finds it
    have hhas₁ : (l₁.account? mint).isSome := by
      rw [hfirst.account, Option.or_of_isSome hhas]
      exact hhas
    exact hfirst.trans (ih hxs ((hfirst.moduleAddress mintModule).trans hmint) hhas₁)

/-- One coin is minted, to the mint's own account. -/
theorem settled_mintTotal {denom : String} {total : Amount} (h : mintTotal l denom total = .ok l')
    (hmint : l.moduleAddress? mintModule = some mint) :
    Settled mint l (fun d ↦ if denom = d then total.toNat else 0) [] l' := by
  obtain ⟨hzero, rfl⟩ | ⟨hzero, hl'⟩ := mintTotal_eq_ok.mp h
  · have hnone : (fun d ↦ if denom = d then total.toNat else 0) = fun _ : String ↦ 0 := by
      funext d
      rw [beq_iff_eq.mp hzero, ite_self]
    rw [hnone]
    exact settled_nil mint l'
  · obtain ⟨-, mint', hmint', hcoins⟩ := mint_eq_ok.mp hl'
    obtain rfl : mint = mint' := Option.some.inj (hmint.symm.trans hmint')
    have hunits := Coins.unitsIn_single denom total
    have hbalance := balance_mintCoins hcoins
    have hsupply := supply_mintCoins hcoins
    have hl : l' = (l.mintCoins mint (Coins.single denom total).toList).1 := by rw [hcoins]
    refine ⟨fun a d ↦ ?_, fun d ↦ ?_, fun d hd ↦ ?_, fun a ↦ ?_, fun name ↦ ?_, ?_⟩
    · rw [hbalance, hunits]
      show _ + _ + (if a = mint then 0 else 0) = _
      rw [ite_self]
      rfl
    · rw [hsupply, hunits]
    · have hne : denom ≠ d := fun hdenom ↦ hzero (beq_iff_eq.mpr ((if_pos hdenom).symm.trans hd))
      rw [hl]
      refine read_mintCoins (·.supplyRow? d) l mint (fun l _ n ↦ supplyRow?_setBalance l _ n d)
        fun c hc l n ↦ ?_
      rw [Coins.toList_single, if_neg hzero] at hc
      rw [List.mem_singleton.mp hc, supplyRow?_setSupply, if_neg (Ne.symm hne)]
    · rw [List.any_nil, if_neg Bool.false_ne_true, Option.or_none, hl]
      exact read_mintCoins (·.account? a) l mint (fun l _ n ↦ account?_setBalance l _ n a)
        fun c _ l n ↦ account?_setSupply l c.denom n a
    · rw [hl]
      exact read_mintCoins (·.moduleAddress? name) l mint
        (fun l _ n ↦ moduleAddress?_setBalance l _ n name)
        fun c _ l n ↦ moduleAddress?_setSupply l c.denom n name
    · rw [hl]
      exact read_mintCoins under? l mint (fun l _ n ↦ under?_setBalance l _ n)
        fun c _ l n ↦ under?_setSupply l c.denom n

/-- Settling an emission mints its total and makes its payments, to the letter. -/
theorem settled_settle (hl : l.Keyed) {denom : String} {e : Emission} {view : Ledger}
    (h : settle l denom e = .ok view) (hmint : l.moduleAddress? mintModule = some mint)
    (hhas : (l.account? mint).isSome) :
    Settled mint l (fun d ↦ if denom = d then e.total.toNat else 0) e.payments view.commit := by
  have hdirect := commit_settle hl denom e
  rw [h] at hdirect
  obtain ⟨l₁, hminted, hpaid⟩ := bind_eq_ok.mp hdirect.symm
  have hfirst := settled_mintTotal hminted hmint
  have hhas₁ : (l₁.account? mint).isSome := by
    rw [hfirst.account, Option.or_of_isSome hhas]
    exact hhas
  exact hfirst.trans
    (settled_foldlM_pay hpaid ((hfirst.moduleAddress mintModule).trans hmint) hhas₁)

end Keeper

end Tokenomics
