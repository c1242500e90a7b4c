import Tokenomics.Fees.Registers
import Tokenomics.Proofs.Fees.Review
import Tokenomics.Proofs.Ledger.Conservation

/-!
# What is left of a grant

A grant is consumed when its granter is named, which comes before the claim that may bootstrap an
account and before it is known whether the fee can be charged. So when the fee is charged the limit
has fallen by what the granter has paid, and when nothing is charged after all, the limit has
fallen by the fee all the same (`Admitter.grantEffect_review`). Only what refuses a transaction
earlier leaves the limit as it was, a denial of the grant included.
-/

namespace Tokenomics

namespace GrantRegister

variable {denom : String} {r r' : GrantRegister} {request : GrantRequest} {reason : String}

/-- Some units have been taken off the limit of a grant, and off no other limit. -/
structure Consumed (r r' : GrantRegister) (grant : Grant) (n : Nat) : Prop where
  limit : ∃ limit left, r.limits.get? grant = some limit ∧ r'.limits.get? grant = some left ∧
    left.toNat + n = limit.toNat
  others : ∀ other, other ≠ grant → r'.limits.get? other = r.limits.get? other

/-- A grant that is not there or does not reach has kept its limit, and so have all others. -/
structure Kept (r r' : GrantRegister) (grant : Grant) (n : Amount) : Prop where
  short : ∀ limit, r.limits.get? grant = some limit → limit < n
  limits : r'.limits = r.limits

/-- A grant that is given has been consumed by the fee. -/
theorem consumed_of_use (h : use denom r request = (r', .ok ())) :
    r.Consumed r' ⟨request.granter, request.grantee⟩ (request.fee.amountOf denom).toNat := by
  rw [use] at h
  split at h
  · simp at h
  · rename_i limit hlimit
    split at h
    · simp at h
    · rename_i henough
      obtain rfl := congrArg Prod.fst h
      refine ⟨⟨limit, _, hlimit, SortedMap.get?_insert_self _ _ _, ?_⟩, fun other hother ↦ ?_⟩
      · have hle : (request.fee.amountOf denom).toNat ≤ limit.toNat := Nat.le_of_not_lt henough
        rw [Amount.toNat_sub, Nat.sub_add_cancel hle]
      · exact SortedMap.get?_insert_of_ne _ hother _

/-- A grant that is denied has not been consumed. -/
theorem kept_of_use (h : use denom r request = (r', .error reason)) :
    r.Kept r' ⟨request.granter, request.grantee⟩ (request.fee.amountOf denom) := by
  rw [use] at h
  split at h
  · rename_i hnone
    obtain ⟨rfl, -⟩ := Prod.mk.inj h
    refine ⟨fun limit hlimit ↦ ?_, rfl⟩
    exact absurd (hlimit.symm.trans hnone) (Option.some_ne_none limit)
  · rename_i limit hlimit
    split at h
    · rename_i hshort
      obtain ⟨rfl, -⟩ := Prod.mk.inj h
      refine ⟨fun limit' hlimit' ↦ ?_, rfl⟩
      obtain rfl := Option.some.inj (hlimit.symm.trans hlimit')
      exact hshort
    · simp at h

end GrantRegister

namespace Admitter

variable {τ : Type} {d : Admitter GrantRegister τ} {s : AdmissionState GrantRegister τ}
  {denom : String} {fee : Fee} {granter a collector : Address} {messages : List Message}
  {r r' : GrantRegister} {l l' : Ledger} {coins : Coins}

/-! ## The limits when it is decided who is charged -/

theorem Charging.consumed (hd : d.grants = some (GrantRegister.use denom))
    (hgranter : fee.granter = some granter) (hne : granter ≠ fee.payer)
    (h : Charging d r messages fee (r', .ok a)) :
    r.Consumed r' ⟨granter, fee.payer⟩ (fee.amount.amountOf denom).toNat := by
  cases h with
  | payer hnone => exact nomatch hnone.symm.trans hgranter
  | self hself _ => exact absurd (Option.some.inj (hgranter.symm.trans hself)) hne
  | granted hgranted _ hd' hk =>
    obtain rfl := Option.some.inj (hd.symm.trans hd')
    obtain rfl := Option.some.inj (hgranter.symm.trans hgranted)
    exact GrantRegister.consumed_of_use hk

theorem Charging.kept {e : AdmissionError} (hd : d.grants = some (GrantRegister.use denom))
    (hgranter : fee.granter = some granter) (h : Charging d r messages fee (r', .error e)) :
    (∃ reason, e = .grantDenied granter fee.payer reason) ∧
      r.Kept r' ⟨granter, fee.payer⟩ (fee.amount.amountOf denom) := by
  cases h with
  | disabled _ hnone => exact nomatch hnone.symm.trans hd
  | denied hdenied hne hd' hk =>
    obtain rfl := Option.some.inj (hd.symm.trans hd')
    obtain rfl := Option.some.inj (hgranter.symm.trans hdenied)
    exact ⟨⟨_, rfl⟩, GrantRegister.kept_of_use hk⟩

/-! ## The fee -/

/-- Some units of a denomination have gone from one address to another. -/
def Moved (l l' : Ledger) (payer collector : Address) (denom : String) (n : Nat) : Prop :=
  (l'.balance ⟨payer, denom⟩).toNat + n = (l.balance ⟨payer, denom⟩).toNat ∧
    (l'.balance ⟨collector, denom⟩).toNat = (l.balance ⟨collector, denom⟩).toNat + n

/-- A fee that is charged moves all that it has of a denomination. -/
theorem moved_of_charge {result : Admission} (hne : a ≠ collector)
    (hc : l.moduleAddress? feeCollector = some collector)
    (h : charge l a coins = .ok (l', result)) (denom : String) :
    Moved l l' a collector denom (coins.amountOf denom).toNat := by
  obtain ⟨-, -, ⟨hzero, rfl⟩ | ⟨-, hdeduct⟩⟩ := charge_eq_ok.mp h
  · have hnone : (coins.amountOf denom).toNat = 0 := by
      rw [Coins.toNat_amountOf, Coins.unitsIn_of_isZero hzero, Nat.zero_min]
    rw [hnone]
    exact ⟨rfl, rfl⟩
  · obtain ⟨-, collector', hc', htransfer⟩ := deductFee_eq_ok.mp hdeduct
    obtain rfl : collector = collector' := Option.some.inj (hc.symm.trans hc')
    have hamount : (coins.amountOf denom).toNat = Coins.unitsIn coins.toList denom := by
      have hfunds := Ledger.unitsIn_le_of_transfer htransfer denom
      have hlt := (l.balance ⟨a, denom⟩).toNat_lt
      rw [Coins.toNat_amountOf]
      omega
    have hpayer := Ledger.balance_transfer_add htransfer a denom
    have hcollector := Ledger.balance_transfer_add htransfer collector denom
    rw [if_pos rfl, if_neg hne] at hpayer
    rw [if_pos rfl, if_neg hne.symm] at hcollector
    rw [hamount]
    exact ⟨hpayer, hcollector⟩

/-- Why a fee is not charged once it is known who is to pay it. -/
theorem charge_error_cases {e : AdmissionError} (h : charge l a coins = .error e) :
    e = .unknownPayer a ∨ (∃ cause, e = .invalidFee coins cause) ∨ ∃ short, e = .unpaid short := by
  obtain ⟨-, rfl⟩ | ⟨-, -, hdeduct⟩ := charge_eq_error.mp h
  · exact .inl rfl
  · rw [deductFee] at hdeduct
    split at hdeduct
    · rename_i cause _
      exact .inr (.inl ⟨cause, (Except.error.inj hdeduct).symm⟩)
    · obtain ⟨short, -, rfl⟩ := mapError_eq_error.mp hdeduct
      exact .inr (.inr ⟨short, rfl⟩)

/-! ## The limits after a review -/

/-- What has become of the limits and of the granter's coins, by the verdict. A grant is denied only
if its limit does not reach, and no review of a fee ends for want of a fee or of grants. -/
def GrantEffect (denom : String) (fee : Fee) (granter : Address)
    (s s' : AdmissionState GrantRegister τ) : Verdict → Prop
  | .ok (.charged payer _) => payer = granter ∧ ∃ collector n,
    s.ledger.moduleAddress? feeCollector = some collector ∧
      s.grants.Consumed s'.grants ⟨granter, fee.payer⟩ n ∧
      Moved s.ledger s'.ledger granter collector denom n
  | .ok (.bootstrapped _) | .error (.unknownPayer _) | .error (.invalidFee ..)
  | .error (.unpaid _) =>
    s.grants.Consumed s'.grants ⟨granter, fee.payer⟩ (fee.amount.amountOf denom).toNat ∧
      ∀ h, s'.ledger.balance h = s.ledger.balance h
  | .error (.grantDenied ..) =>
    s.grants.Kept s'.grants ⟨granter, fee.payer⟩ (fee.amount.amountOf denom)
  | .error (.noCollector _) =>
    s.ledger.moduleAddress? feeCollector = none ∧ s'.grants.limits = s.grants.limits
  | .error .noFee | .error .grantsDisabled => False

theorem grantEffect_settle {g : GrantRegister} (hne : granter ≠ collector)
    (hc : l.moduleAddress? feeCollector = some collector)
    (hconsumed : r.Consumed g ⟨granter, fee.payer⟩ (fee.amount.amountOf denom).toNat) (t t' : τ) :
    GrantEffect denom fee granter ⟨l, r, t⟩ (settle ⟨l, g, t'⟩ granter fee.amount).1
      (settle ⟨l, g, t'⟩ granter fee.amount).2 := by
  obtain ⟨l', result, hcharge, hsettle⟩ | ⟨e, hcharge, hsettle⟩ :=
    settle_cases ⟨l, g, t'⟩ granter fee.amount
  · rw [hsettle]
    obtain ⟨-, rfl, -⟩ := charge_eq_ok.mp hcharge
    exact ⟨rfl, collector, _, hc, hconsumed, moved_of_charge hne hc hcharge denom⟩
  · rw [hsettle]
    obtain rfl | ⟨cause, rfl⟩ | ⟨short, rfl⟩ := charge_error_cases hcharge
    · exact ⟨hconsumed, fun _ ↦ rfl⟩
    · exact ⟨hconsumed, fun _ ↦ rfl⟩
    · exact ⟨hconsumed, fun _ ↦ rfl⟩

/-- **A grant is consumed once it is given.** If the fee is charged, its limit falls by what the
granter pays; if nothing is charged after all, it falls by the fee; and only a transaction refused
no later than by the grant leaves the limits as they were. -/
theorem grantEffect_review {tx : Transaction} (hd : d.grants = some (GrantRegister.use denom))
    (hfee : tx.fee = some fee) (hgranter : fee.granter = some granter)
    (hpayer : granter ≠ fee.payer)
    (hcollector : s.ledger.moduleAddress? feeCollector ≠ some granter) :
    GrantEffect denom fee granter s (d.review s tx).1 (d.review s tx).2 := by
  have haccount : fee.account = granter := by rw [Fee.account, hgranter, Option.getD_some]
  have hne : ∀ collector, s.ledger.moduleAddress? feeCollector = some collector →
      granter ≠ collector := by
    rintro collector hc rfl
    exact hcollector hc
  have hreviewed := reviewed_review d s tx
  generalize d.review s tx = result at hreviewed
  cases hreviewed with
  | noFee h => simp [h] at hfee
  | noCollector h hc => exact ⟨hc, rfl⟩
  | refused h hc hcharging =>
    obtain rfl := Option.some.inj (h.symm.trans hfee)
    obtain ⟨⟨_, rfl⟩, hkept⟩ := hcharging.kept hd hgranter
    exact hkept
  | bootstrapped h hc hcharging hmessages hnew hclaim =>
    obtain rfl := Option.some.inj (h.symm.trans hfee)
    exact ⟨hcharging.consumed hd hgranter hpayer, Ledger.balance_setAccount s.ledger _⟩
  | unclaimed h hc hcharging hmessages hnew hclaim =>
    obtain rfl := Option.some.inj (h.symm.trans hfee)
    rw [haccount]
    exact grantEffect_settle (hne _ hc) hc (hcharging.consumed hd hgranter hpayer) _ _
  | settled h hc hcharging hnew =>
    obtain rfl := Option.some.inj (h.symm.trans hfee)
    rw [haccount]
    exact grantEffect_settle (hne _ hc) hc (hcharging.consumed hd hgranter hpayer) _ _

/-- A register of grants, and claims that succeed without any condition. -/
def unconditional : Admitter GrantRegister Unit where
  grants := some (GrantRegister.use "ufury")
  claims t l _ := (t, l, .ok ())

/-- Two granters allow fifty coins each to the same payer. The first has a hundred, and the second
has no account. -/
def twoGranters : AdmissionState GrantRegister Unit where
  ledger := .book (Ledger.funded feeCollector 100)
  grants := ⟨(SortedMap.empty.insert ⟨Ledger.bytesOf 1, Ledger.bytesOf 2⟩ (.ofUInt64 50)).insert
    ⟨Ledger.bytesOf 4, Ledger.bytesOf 2⟩ (.ofUInt64 50), 0⟩
  claims := ()

/-- A transaction of one message under a grant. -/
def granted (granter : Address) (message : Message) (coins : Coins) : Transaction :=
  ⟨[message], some ⟨coins, Ledger.bytesOf 2, some granter⟩⟩

/-- A granter's limit falls by the thirty coins that are paid. -/
theorem grantEffect_review_granted :
    twoGranters.ledger.moduleAddress? feeCollector ≠ some (Ledger.bytesOf 1) ∧
      (let after := unconditional.review twoGranters
        (granted (Ledger.bytesOf 1) (.other "/note") (Ledger.furies 30))
      after.2 = .ok (.charged (Ledger.bytesOf 1) (.paid "30ufury")) ∧
        after.1.grants.limits.get? ⟨Ledger.bytesOf 1, Ledger.bytesOf 2⟩ = some (.ofUInt64 20) ∧
        GrantEffect "ufury" ⟨Ledger.furies 30, Ledger.bytesOf 2, some (Ledger.bytesOf 1)⟩
          (Ledger.bytesOf 1) twoGranters after.1 after.2) := by
  have hcollector :
      twoGranters.ledger.moduleAddress? feeCollector ≠ some (Ledger.bytesOf 1) := by
    decide +kernel
  refine ⟨hcollector, by decide +kernel, by decide +kernel, ?_⟩
  exact grantEffect_review rfl rfl rfl (by decide) hcollector

/-- The limit of a granter, before and after a review of a transaction of theirs, and the verdict on
it. -/
def limitAround (granter : Address) (message : Message) (coins : Coins) :
    Option Amount × Option Amount × Verdict :=
  let after := unconditional.review twoGranters (granted granter message coins)
  let grant : Grant := ⟨granter, Ledger.bytesOf 2⟩
  (twoGranters.grants.limits.get? grant, after.1.grants.limits.get? grant, after.2)

/-- Thirty of the fifty coins granted are gone, and nobody has been charged: because a claim has
bootstrapped an account, because the granter has no account, because the fee is not in order, and
because the granter lacks a coin of it. -/
theorem limitAround_uncharged :
    let before : Option Amount := some (.ofUInt64 50)
    let left : Option Amount := some (.ofUInt64 20)
    let claim : Message := .claim ⟨"0x01", "key", Ledger.bytesOf 3, "signature"⟩
    let ufury : Coin := ⟨"ufury", .ofUInt64 30⟩
    let uatom : Coin := ⟨"uatom", .ofUInt64 1⟩
    limitAround (Ledger.bytesOf 1) claim ⟨[ufury]⟩
        = (before, left, .ok (.bootstrapped (Ledger.bytesOf 3))) ∧
      limitAround (Ledger.bytesOf 4) (.other "/note") ⟨[ufury]⟩
        = (before, left, .error (.unknownPayer (Ledger.bytesOf 4))) ∧
      limitAround (Ledger.bytesOf 1) (.other "/note") ⟨[ufury, uatom]⟩
        = (before, left, .error (.invalidFee ⟨[ufury, uatom]⟩ (.unsorted ⟨[ufury, uatom]⟩))) ∧
      limitAround (Ledger.bytesOf 1) (.other "/note") ⟨[uatom, ufury]⟩
        = (before, left, .error (.unpaid
          (.insufficientFunds (Ledger.bytesOf 1) "uatom" .zero uatom.amount))) := by
  decide +kernel

end Admitter

end Tokenomics
