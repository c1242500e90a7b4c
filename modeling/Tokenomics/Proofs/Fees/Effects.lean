import Tokenomics.Proofs.Coin.Text
import Tokenomics.Proofs.Fees.Review
import Tokenomics.Proofs.Ledger.Accounts

/-!
# What a review does to the ledger

The outcome of a review says what has become of the ledger (`Admitter.Effect`): nothing if there
was an error, one more account if a claim has bootstrapped it, and the coins of the fee moved to the
fee collector if the fee was charged. This is so whatever a claim writes to the view on which it is
tried, since nothing of the view comes back: no hypothesis is made on either collaborator.

All changes are given as what is read afterwards in terms of what was read before, at every address
and for every denomination, and not by the operations that made them.
-/

namespace Tokenomics

namespace Ledger

variable {l l' : Ledger} {name : String} {payer collector a : Address} {coins : Coins}

/-- A module is registered at an address that has an account. -/
structure Registered (l : Ledger) (name : String) (a : Address) : Prop where
  moduleAddress? : l.moduleAddress? name = some a
  account? : (l.account? a).isSome

theorem Registered.createAccount (h : l.Registered name a) (b : Address) :
    (l.createAccount b).Registered name a where
  moduleAddress? := by
    rw [read_createAccount (·.moduleAddress? name) fun l x ↦ moduleAddress?_setAccount l x name]
    exact h.moduleAddress?
  account? := by
    rw [account?_createAccount, Option.isSome_or, h.account?, Bool.true_or]

theorem registered_register (b : Book) (name : String) :
    (book (b.register name)).Registered name (.ofModule name) where
  moduleAddress? := by rw [moduleAddress?_register, if_pos rfl]
  account? := isSome_account?_register b name

/-- Funding leaves the modules and their accounts alone. -/
theorem Registered.fund {b : Book} (h : (book b).Registered name a) (owner : Address)
    (coins : Coins) : (book (b.fund owner coins)).Registered name a where
  moduleAddress? := by
    rw [read_fund (·.moduleAddress? name) b owner
      (fun l _ n ↦ moduleAddress?_setBalance l _ n name)
      fun l d n ↦ moduleAddress?_setSupply l d n name]
    exact (h.createAccount owner).moduleAddress?
  account? := (develops_fund b owner coins).isSome_account? h.account?

/-- The same supplies and modules, over the same ledger if it is a view. -/
structure SameFrame (l l' : Ledger) : Prop where
  supply : ∀ d, l'.supply d = l.supply d
  supplyRow? : ∀ d, l'.supplyRow? d = l.supplyRow? d
  moduleAddress? : ∀ name, l'.moduleAddress? name = l.moduleAddress? name
  under? : l'.under? = l.under?

/-- One more account, which has not signed anything, and nothing else. -/
structure Opens (l l' : Ledger) (a : Address) : Prop where
  isNew : l.account? a = none
  account? : ∀ b, l'.account? b = if b = a then some ⟨a, 0⟩ else l.account? b
  balance : ∀ h, l'.balance h = l.balance h
  sameFrame : SameFrame l l'

/-- Coins have moved from one address to another, all of them, and nothing else has changed. -/
structure Pays (l l' : Ledger) (payer collector : Address) (coins : Coins) : Prop where
  /-- What an address holds and has given away is what it held and has been given. -/
  balance : ∀ a d,
    (l'.balance ⟨a, d⟩).toNat + (if a = payer then Coins.unitsIn coins.toList d else 0)
      = (l.balance ⟨a, d⟩).toNat + (if a = collector then Coins.unitsIn coins.toList d else 0)
  account? : ∀ a, l'.account? a = l.account? a
  sameFrame : SameFrame l l'
  /-- Nothing moves from an address to itself, and nothing that has no units. -/
  unmoved : payer = collector ∨ coins.isZero = true → l' = l

theorem opens_setAccount (h : l.account? a = none) : Opens l (l.setAccount (.fresh a)) a where
  isNew := h
  account? := account?_setAccount_fresh l a
  balance := balance_setAccount l _
  sameFrame := ⟨supply_setAccount l _, supplyRow?_setAccount l _, moduleAddress?_setAccount l _,
    under?_setAccount l _⟩

theorem pays_of_isZero (h : coins.isZero = true) : Pays l l payer collector coins where
  balance a d := by
    rw [Coins.unitsIn_of_isZero h, ite_self, ite_self]
  account? _ := rfl
  sameFrame := ⟨fun _ ↦ rfl, fun _ ↦ rfl, fun _ ↦ rfl, rfl⟩
  unmoved _ := rfl

/-- A transfer to an account on record. -/
theorem pays_of_transfer (hcollector : (l.account? collector).isSome) (hzero : coins.isZero = false)
    (h : l.transfer payer collector coins = .ok l') : Pays l l' payer collector coins where
  balance := balance_transfer_add h
  account? a := by
    rw [account?_transfer h]
    by_cases ha : a = collector
    · obtain ⟨x, hx⟩ := Option.isSome_iff_exists.mp hcollector
      rw [ha, hx, Option.some_or]
    · rw [if_neg fun h ↦ ha h.2, Option.or_none]
  sameFrame := ⟨supply_transfer h, supplyRow?_transfer h, moduleAddress?_transfer h,
    under?_transfer h⟩
  unmoved hunmoved := by
    obtain hself | hzero' := hunmoved
    · obtain ⟨-, -, ⟨-, hl'⟩ | ⟨hne, -⟩⟩ := transfer_eq_ok.mp h
      · exact hl'
      · exact absurd hself hne
    · exact absurd (hzero.symm.trans hzero') Bool.false_ne_true

end Ledger

namespace Admitter

variable {σ τ : Type} {d : Admitter σ τ} {s : AdmissionState σ τ} {collector : Address}
  {tx : Transaction}

/-- What has become of a ledger when the transaction has been reviewed. -/
def Effect (l l' : Ledger) (collector : Address) (tx : Transaction) : Verdict → Prop
  | .error _ => l' = l
  | .ok (.bootstrapped a) =>
    l.Opens l' a ∧ ∃ c, tx.messages = [.claim c] ∧ c.rewardAddress = a
  | .ok (.charged payer (.paid text)) => ∃ fee, tx.fee = some fee ∧ payer = fee.account ∧
    l.Pays l' payer collector fee.amount ∧
    (fee.amount.isZero = false → Coins.ofText text = .ok fee.amount)

theorem effect_settle {l : Ledger} (hcollector : l.Registered feeCollector collector) {fee : Fee}
    (hfee : tx.fee = some fee) (g : σ) (t : τ) :
    Effect l (settle ⟨l, g, t⟩ fee.account fee.amount).1.ledger collector tx
      (settle ⟨l, g, t⟩ fee.account fee.amount).2 := by
  obtain ⟨l', r, hcharge, hsettle⟩ | ⟨e, -, hsettle⟩ :=
    settle_cases ⟨l, g, t⟩ fee.account fee.amount
  · rw [hsettle]
    obtain ⟨-, rfl, ⟨hzero, rfl⟩ | ⟨hzero, hdeduct⟩⟩ := charge_eq_ok.mp hcharge
    · refine ⟨fee, hfee, rfl, Ledger.pays_of_isZero hzero, fun hne ↦ ?_⟩
      exact absurd (hne.symm.trans hzero) Bool.false_ne_true
    · obtain ⟨hvalid, collector', hcollector', htransfer⟩ := deductFee_eq_ok.mp hdeduct
      obtain rfl : collector = collector' :=
        Option.some.inj (hcollector.moduleAddress?.symm.trans hcollector')
      have hdenoms : ∀ c ∈ fee.amount.toList, isDenom c.denom = true :=
        fun c hc ↦ ((Coins.validate_eq_ok.mp hvalid).1 c hc).1
      exact ⟨fee, hfee, rfl, Ledger.pays_of_transfer hcollector.account? hzero htransfer,
        fun _ ↦ Coins.ofText_text hdenoms⟩
  · rw [hsettle]
    exact rfl

/-- **A review changes the ledger as its outcome says,** whatever a claim that is tried writes to
its view. -/
theorem effect_review (hcollector : s.ledger.Registered feeCollector collector)
    (tx : Transaction) :
    Effect s.ledger (d.review s tx).1.ledger collector tx (d.review s tx).2 := by
  have hreviewed := reviewed_review d s tx
  generalize d.review s tx = result at hreviewed
  cases hreviewed with
  | noFee h => exact rfl
  | noCollector h hc => exact rfl
  | refused h hc hcharging => exact rfl
  | bootstrapped h hc hcharging hmessages hnew hclaim =>
    exact ⟨Ledger.opens_setAccount hnew, _, hmessages, rfl⟩
  | unclaimed h hc hcharging hmessages hnew hclaim =>
    exact effect_settle hcollector h _ _
  | settled h hc hcharging hnew => exact effect_settle hcollector h _ _

/-- No fee grants, and claims that take all there is and fail. -/
def looters : Admitter Unit Nat where
  grants := none
  claims tries l c :=
    (tries + 1, (l.setBalance ⟨Ledger.bytesOf 1, "ufury"⟩ .zero).setBalance
      ⟨c.rewardAddress, "ufury"⟩ .greatest, .error .invalidSignature)

def beforeLooting : AdmissionState Unit Nat := ⟨.book (Ledger.funded feeCollector 100), (), 0⟩

/-- A claim paid for by an account other than the one to be rewarded. -/
def lootingClaim : Transaction where
  messages := [.claim ⟨"0x01", "key", Ledger.bytesOf 3, "signature"⟩]
  fee := some ⟨Ledger.furies 30, Ledger.bytesOf 1, none⟩

/-- The looter is left with nothing, and the payer with seventy of a hundred coins. -/
theorem effect_review_lootingClaim :
    beforeLooting.ledger.Registered feeCollector (.ofModule feeCollector) ∧
      (let after := looters.review beforeLooting lootingClaim
      after.2 = .ok (.charged (Ledger.bytesOf 1) (.paid "30ufury")) ∧ after.1.claims = 1 ∧
        after.1.ledger.balance ⟨Ledger.bytesOf 3, "ufury"⟩ = .zero ∧
        after.1.ledger.balance ⟨Ledger.bytesOf 1, "ufury"⟩ = .ofUInt64 70) ∧
      Effect beforeLooting.ledger (looters.review beforeLooting lootingClaim).1.ledger
        (.ofModule feeCollector) lootingClaim (looters.review beforeLooting lootingClaim).2 := by
  have hregistered : beforeLooting.ledger.Registered feeCollector (.ofModule feeCollector) :=
    (Ledger.registered_register .empty feeCollector).fund (Ledger.bytesOf 1) (Ledger.furies 100)
  exact ⟨hregistered, by decide +kernel, effect_review hregistered lootingClaim⟩

end Admitter

end Tokenomics
