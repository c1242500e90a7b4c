import Tokenomics.Proofs.Fees.Review
import Tokenomics.Proofs.Ledger.Accounts

/-!
# Bootstraps are for newcomers

A claim bootstraps an account only where there is none. That makes a bootstrap something that an
address gets once in its life at most, because accounts stay (`Ledger.Develops`): whoever was
bootstrapped has an account from then on, and so has whoever held anything at any time.

The statement is about everything that can happen to a book from its beginning (`Act`): modules are
registered, coins are funded, programs of ledger calls run on forks, and transactions are reviewed.
Every review may have collaborators of its own, in any state. What a claim writes to the view on
which it is tried does not matter, since nothing of the view comes back.
-/

namespace Tokenomics

variable {σ τ : Type} {b b' b'' : Book} {log log' : List Address}

/-! ## Reviews -/

namespace Admitter

/-- The account that a review has bootstrapped. -/
def bootstrapped? : Verdict → Option Address
  | .ok (.bootstrapped a) => some a
  | _ => none

/-- Charging a fee develops the ledger and bootstraps nobody. -/
theorem develops_settle (s : AdmissionState σ τ) (account : Address) (fee : Coins) :
    s.ledger.Develops (settle s account fee).1.ledger ∧
      bootstrapped? (settle s account fee).2 = none := by
  obtain ⟨l', r, hcharge, hsettle⟩ | ⟨e, -, hsettle⟩ := settle_cases s account fee
  · rw [hsettle]
    obtain ⟨-, rfl, ⟨-, rfl⟩ | ⟨-, hdeduct⟩⟩ := charge_eq_ok.mp hcharge
    · exact ⟨.refl _, rfl⟩
    · obtain ⟨-, collector, -, htransfer⟩ := deductFee_eq_ok.mp hdeduct
      exact ⟨Ledger.develops_transfer htransfer, rfl⟩
  · rw [hsettle]
    exact ⟨.refl _, rfl⟩

/-- A review develops the ledger, and the account that it bootstraps is new. -/
theorem develops_review (d : Admitter σ τ) (s : AdmissionState σ τ) (tx : Transaction) :
    s.ledger.Develops (d.review s tx).1.ledger ∧
      ∀ a, bootstrapped? (d.review s tx).2 = some a →
        s.ledger.account? a = none ∧ ((d.review s tx).1.ledger.account? a).isSome := by
  have hreviewed := reviewed_review d s tx
  generalize d.review s tx = result at hreviewed
  cases hreviewed with
  | noFee h => exact ⟨.refl _, nofun⟩
  | noCollector h hc => exact ⟨.refl _, nofun⟩
  | refused h hc hcharging => exact ⟨.refl _, nofun⟩
  | bootstrapped h hc hcharging hmessages hnew hclaim =>
    rename_i c
    refine ⟨Ledger.createAccount_of_none hnew ▸ Ledger.develops_createAccount _ _, fun a ha ↦ ?_⟩
    obtain rfl : c.rewardAddress = a := Option.some.inj ha
    refine ⟨hnew, ?_⟩
    rw [Ledger.account?_setAccount_fresh, if_pos rfl]
    rfl
  | unclaimed h hc hcharging hmessages hnew hclaim =>
    rename_i fee collector g c
    obtain ⟨hdevelops, hnone⟩ := develops_settle
      ⟨s.ledger, g, (d.claims s.claims (claimView s.ledger c) c).1⟩ fee.account fee.amount
    exact ⟨hdevelops, fun a ha ↦ nomatch hnone.symm.trans ha⟩
  | settled h hc hcharging hnew =>
    rename_i fee collector g
    obtain ⟨hdevelops, hnone⟩ :=
      develops_settle { s with grants := g } fee.account fee.amount
    exact ⟨hdevelops, fun a ha ↦ nomatch hnone.symm.trans ha⟩

end Admitter

/-! ## Acts -/

/-- The book at the bottom of a ledger. -/
def Ledger.base : Ledger → Book
  | .book b => b
  | .view under _ => under.base

theorem Ledger.book_base {l : Ledger} (h : l.under? = none) : .book l.base = l := by
  obtain ⟨b, rfl⟩ := exists_eq_book h
  rfl

/-- What can happen to a book. -/
inductive Act : Type 1 where
  | register (name : String)
  | fund (a : Address) (coins : Coins)
  /-- A call, or work on a fork, where no account, balance or supply is set by hand. -/
  | step (s : Ledger.Step) (ruled : ∀ c ∈ s.keptCalls, c.Ruled)
  /-- A transaction is reviewed, by any collaborators in any states. -/
  | review {σ τ : Type} (d : Admitter σ τ) (grants : σ) (claims : τ) (tx : Transaction)

namespace Act

/-- The book after an act, and the account bootstrapped by it. -/
def perform (b : Book) : Act → Book × Option Address
  | register name => (b.register name, none)
  | fund a coins => (b.fund a coins, none)
  | step s _ => ((s.run (.book b)).1.base, none)
  | review d grants claims tx =>
    let (s, verdict) := d.review ⟨.book b, grants, claims⟩ tx
    (s.ledger.base, Admitter.bootstrapped? verdict)

/-- The book after acts one after the other, and all accounts bootstrapped by them. -/
def performAll (b : Book) : List Act → Book × List Address
  | [] => (b, [])
  | act :: acts =>
    let (b₁, new) := act.perform b
    let (b₂, log) := performAll b₁ acts
    (b₂, new.toList ++ log)

theorem performAll_cons (b : Book) (act : Act) (acts : List Act) :
    performAll b (act :: acts) = ((performAll (act.perform b).1 acts).1,
      (act.perform b).2.toList ++ (performAll (act.perform b).1 acts).2) := rfl

theorem performAll_append (b : Book) (early late : List Act) :
    performAll b (early ++ late) = ((performAll (performAll b early).1 late).1,
      (performAll b early).2 ++ (performAll (performAll b early).1 late).2) := by
  induction early generalizing b with
  | nil => rfl
  | cons act early ih =>
    rw [List.cons_append, performAll_cons, performAll_cons, ih, List.append_assoc]

/-! ## Newcomers -/

/-- The book has developed into another one, and those on the list have come: each of them once,
without an account before, and with one now. -/
structure Welcomes (b : Book) (log : List Address) (b' : Book) : Prop where
  develops : Ledger.Develops (.book b) (.book b')
  nodup : log.Nodup
  isNew : ∀ a ∈ log, b.account? a = none
  stays : ∀ a ∈ log, (b'.account? a).isSome

theorem Welcomes.nil (b : Book) : Welcomes b [] b :=
  ⟨.refl _, .nil, nofun, nofun⟩

/-- Who came early has an account when the late ones come, and they have none. -/
theorem Welcomes.append (h : Welcomes b log b') (h' : Welcomes b' log' b'') :
    Welcomes b (log ++ log') b'' where
  develops := h.develops.trans h'.develops
  nodup := by
    refine h.nodup.append h'.nodup fun a ha ha' ↦ ?_
    have hstays := h.stays a ha
    rw [h'.isNew a ha'] at hstays
    exact nomatch hstays
  isNew a ha := by
    rcases List.mem_append.mp ha with ha | ha
    · exact h.isNew a ha
    · by_contra hold
      have hstays := h.develops.isSome_account? (Option.isSome_iff_ne_none.mpr hold)
      rw [Ledger.account?, h'.isNew a ha] at hstays
      exact nomatch hstays
  stays a ha := by
    rcases List.mem_append.mp ha with ha | ha
    · exact h'.develops.isSome_account? (h.stays a ha)
    · exact h'.stays a ha

theorem welcomes_perform (act : Act) (b : Book) :
    Welcomes b (act.perform b).2.toList (act.perform b).1 := by
  cases act with
  | register name => exact ⟨Ledger.develops_register b name, .nil, nofun, nofun⟩
  | fund a coins => exact ⟨Ledger.develops_fund b a coins, .nil, nofun, nofun⟩
  | step s ruled =>
    have hdevelops := Ledger.develops_step (l := .book b) ruled trivial
    refine ⟨?_, .nil, nofun, nofun⟩
    rw [perform, Ledger.book_base hdevelops.under?]
    exact hdevelops
  | review d grants claims tx =>
    obtain ⟨hdevelops, hnew⟩ := d.develops_review ⟨.book b, grants, claims⟩ tx
    rw [perform]
    generalize d.review ⟨.book b, grants, claims⟩ tx = result at hdevelops hnew ⊢
    obtain ⟨s, verdict⟩ := result
    have hbase : .book s.ledger.base = s.ledger := Ledger.book_base hdevelops.under?
    dsimp only at hdevelops hnew ⊢
    rw [← hbase] at hdevelops hnew
    exact ⟨hdevelops, Option.toList_nodup _, fun a ha ↦ (hnew a (Option.mem_toList.mp ha)).1,
      fun a ha ↦ (hnew a (Option.mem_toList.mp ha)).2⟩

theorem welcomes_performAll (acts : List Act) (b : Book) :
    Welcomes b (performAll b acts).2 (performAll b acts).1 := by
  induction acts generalizing b with
  | nil => exact .nil b
  | cons act acts ih =>
    rw [performAll_cons]
    exact (welcomes_perform act b).append (ih _)

/-- **Only newcomers are bootstrapped, and each of them once.** Whatever has happened to a book
since it was empty, and whatever happens after that: every account that is there stays as it is,
whoever holds anything has one, no address is bootstrapped twice, and none that by then has an
account or holds anything is bootstrapped later. -/
theorem bootstraps_once (early late : List Act) : ∃ b log b' log',
    performAll .empty early = (b, log) ∧ performAll .empty (early ++ late) = (b', log ++ log') ∧
    (∀ a x, b.account? a = some x → b'.account? a = some x) ∧
    (∀ a d, b.balance ⟨a, d⟩ ≠ .zero → (b.account? a).isSome) ∧
    (log ++ log').Nodup ∧
    ∀ a, (b.account? a).isSome ∨ (∃ d, b.balance ⟨a, d⟩ ≠ .zero) → a ∉ log' := by
  have hearly := welcomes_performAll early .empty
  have hlate := welcomes_performAll late (performAll .empty early).1
  have haccounted := hearly.develops.accounted Ledger.accounted_empty
  refine ⟨_, _, _, _, rfl, performAll_append .empty early late, hlate.develops.account?,
    fun a d ↦ haccounted.isSome_account?, (hearly.append hlate).nodup, fun a hold ha ↦ ?_⟩
  have hhas : ((performAll .empty early).1.account? a).isSome := by
    obtain hhas | ⟨d, hd⟩ := hold
    · exact hhas
    · exact haccounted.isSome_account? hd
  rw [hlate.isNew a ha] at hhas
  exact nomatch hhas

/-- No fee grants, and claims that always succeed. -/
def generous : Admitter Unit Unit := ⟨none, fun t l _ ↦ (t, l, .ok ())⟩

/-- A claim by an address that pays the fee itself. -/
def claimBy (a : Address) : Transaction :=
  ⟨[.claim ⟨"0x01", "key", a, "signature"⟩], some ⟨Ledger.furies 30, a, none⟩⟩

/-- The fee collector is registered, and a claim is made for the first time. -/
def firstClaim : List Act :=
  [.register feeCollector, .review generous () () (claimBy (Ledger.bytesOf 3))]

/-- The first claim is free, and the same claim again is not. -/
theorem bootstraps_once_claimBy : ∃ b b' log',
    performAll .empty firstClaim = (b, [Ledger.bytesOf 3]) ∧
    performAll .empty (firstClaim ++ [.review generous () () (claimBy (Ledger.bytesOf 3))])
      = (b', Ledger.bytesOf 3 :: log') ∧
    Ledger.bytesOf 3 ∉ log' := by
  obtain ⟨b, log, b', log', hearly, hall, -, -, hnodup, -⟩ := bootstraps_once firstClaim
    [.review generous () () (claimBy (Ledger.bytesOf 3))]
  have hfree : (performAll .empty firstClaim).2 = [Ledger.bytesOf 3] := by decide +kernel
  rw [hearly] at hfree
  obtain rfl : log = [Ledger.bytesOf 3] := hfree
  exact ⟨b, b', log', hearly, hall, (List.nodup_cons.mp hnodup).1⟩

end Act

end Tokenomics
