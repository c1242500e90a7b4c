import Tokenomics.Fees.Admission
import Tokenomics.Proofs.Ledger.Transfers
import Tokenomics.Proofs.Ledger.Minting

/-!
# The ways through a review

A review has two decisions in front of the fee: who is charged, which may consume a grant
(`Charging`), and whether a claim bootstraps an account. `Reviewed` has one constructor for every
way through, each with all that is known when it is taken, and `reviewed_review` says that there is
no other. What is proved about reviews is proved by cases on it, and nothing else unfolds
`Admitter.review`.
-/

namespace Tokenomics

/-- The account that answers for a fee: the granter's if there is one, and else the payer's. -/
def Fee.account (fee : Fee) : Address := fee.granter.getD fee.payer

namespace Admitter

/-- What a review can come to. -/
abbrev Verdict := Except AdmissionError Admission

variable {σ τ : Type} {d : Admitter σ τ} {s : AdmissionState σ τ} {tx : Transaction}
  {g g' : σ} {messages : List Message} {fee : Fee} {l l' : Ledger} {a : Address}

/-! ## Who is charged -/

/-- What a keeper of grants is asked by a granter who is not the payer. -/
def requestOf (messages : List Message) (fee : Fee) (granter : Address) : GrantRequest :=
  ⟨granter, fee.payer, fee.amount, messages⟩

/-- Who is charged, and what becomes of the grants on the way. -/
inductive Charging (d : Admitter σ τ) (g : σ) (messages : List Message) (fee : Fee) :
    σ × Except AdmissionError Address → Prop
  | payer (h : fee.granter = none) : Charging d g messages fee (g, .ok fee.payer)
  | disabled {granter : Address} (h : fee.granter = some granter) (hd : d.grants = none) :
      Charging d g messages fee (g, .error .grantsDisabled)
  | self {keeper : GrantKeeper σ} (h : fee.granter = some fee.payer) (hd : d.grants = some keeper) :
      Charging d g messages fee (g, .ok fee.payer)
  | granted {granter : Address} {keeper : GrantKeeper σ} {g' : σ} (h : fee.granter = some granter)
      (hne : granter ≠ fee.payer) (hd : d.grants = some keeper)
      (hk : keeper g (requestOf messages fee granter) = (g', .ok ())) :
      Charging d g messages fee (g', .ok granter)
  | denied {granter : Address} {keeper : GrantKeeper σ} {g' : σ} {reason : String}
      (h : fee.granter = some granter) (hne : granter ≠ fee.payer) (hd : d.grants = some keeper)
      (hk : keeper g (requestOf messages fee granter) = (g', .error reason)) :
      Charging d g messages fee (g', .error (.grantDenied granter fee.payer reason))

theorem charging_chargedAccount (d : Admitter σ τ) (g : σ) (messages : List Message) (fee : Fee) :
    Charging d g messages fee (d.chargedAccount g messages fee) := by
  rw [chargedAccount]
  split
  · rename_i h
    exact .payer h
  · rename_i granter h
    split
    · rename_i hd
      exact .disabled h hd
    · rename_i keeper hd
      split
      · rename_i hself
        subst hself
        exact .self h hd
      · rename_i hne
        split
        · rename_i hk
          exact .granted h hne hd hk
        · rename_i hk
          exact .denied h hne hd hk

/-- Whoever is charged is the account that answers for the fee. -/
theorem Charging.eq_account (h : Charging d g messages fee (g', .ok a)) : a = fee.account := by
  cases h with
  | payer h => rw [Fee.account, h, Option.getD_none]
  | self h hd => rw [Fee.account, h, Option.getD_some]
  | granted h hne hd hk => rw [Fee.account, h, Option.getD_some]

/-! ## Claims -/

/-- The view on which a claim is tried: a fork with a fresh account for its reward. -/
def claimView (l : Ledger) (c : Claim) : Ledger := l.fork.setAccount (.fresh c.rewardAddress)

theorem newAccount?_eq_some {c : Claim} : newAccount? l messages = some c ↔
    messages = [.claim c] ∧ l.account? c.rewardAddress = none := by
  rw [newAccount?.eq_def]
  split
  · rename_i c'
    rw [Ledger.hasAccount]
    by_cases hnew : l.account? c'.rewardAddress = none
    · rw [hnew, Option.isSome_none, if_neg Bool.false_ne_true, Option.some.injEq]
      constructor
      · rintro rfl
        exact ⟨rfl, hnew⟩
      · rintro ⟨h, -⟩
        simpa using h
    · rw [Option.isSome_iff_ne_none.mpr hnew, if_pos rfl]
      refine ⟨fun h ↦ absurd h (Option.some_ne_none c).symm, ?_⟩
      rintro ⟨h, hc⟩
      obtain rfl : c' = c := by simpa using h
      exact absurd hc hnew
  · rename_i hother
    refine ⟨fun h ↦ absurd h (Option.some_ne_none c).symm, ?_⟩
    rintro ⟨h, -⟩
    exact absurd h (hother c)

theorem tryClaim_eq {t t' : τ} {c : Claim} {succeeds : Bool} :
    d.tryClaim l t c = (t', succeeds) ↔
      (d.claims t (claimView l c) c).1 = t' ∧
        (d.claims t (claimView l c) c).2.2.isOk = succeeds :=
  Prod.ext_iff

theorem isOk_eq_true {ε : Type} {x : Except ε Unit} : x.isOk = true ↔ x = .ok () := by
  cases x with
  | ok u => exact ⟨fun _ ↦ rfl, fun _ ↦ rfl⟩
  | error e => exact ⟨fun h ↦ (nomatch h), fun h ↦ (nomatch h)⟩

/-! ## The whole review -/

/-- The ways through a review. -/
inductive Reviewed (d : Admitter σ τ) (s : AdmissionState σ τ) (tx : Transaction) :
    AdmissionState σ τ × Verdict → Prop
  | noFee (h : tx.fee = none) : Reviewed d s tx (s, .error .noFee)
  | noCollector {fee : Fee} (h : tx.fee = some fee)
      (hc : s.ledger.moduleAddress? feeCollector = none) :
      Reviewed d s tx (s, .error (.noCollector feeCollector))
  | refused {fee : Fee} {collector : Address} {g : σ} {e : AdmissionError} (h : tx.fee = some fee)
      (hc : s.ledger.moduleAddress? feeCollector = some collector)
      (hcharging : Charging d s.grants tx.messages fee (g, .error e)) :
      Reviewed d s tx ({ s with grants := g }, .error e)
  /-- A claim was tried and has succeeded. -/
  | bootstrapped {fee : Fee} {collector : Address} {g : σ} {c : Claim} (h : tx.fee = some fee)
      (hc : s.ledger.moduleAddress? feeCollector = some collector)
      (hcharging : Charging d s.grants tx.messages fee (g, .ok fee.account))
      (hmessages : tx.messages = [.claim c]) (hnew : s.ledger.account? c.rewardAddress = none)
      (hclaim : (d.claims s.claims (claimView s.ledger c) c).2.2 = .ok ()) :
      Reviewed d s tx (⟨s.ledger.setAccount (.fresh c.rewardAddress), g,
        (d.claims s.claims (claimView s.ledger c) c).1⟩, .ok (.bootstrapped c.rewardAddress))
  /-- A claim was tried and has failed. -/
  | unclaimed {fee : Fee} {collector : Address} {g : σ} {c : Claim} (h : tx.fee = some fee)
      (hc : s.ledger.moduleAddress? feeCollector = some collector)
      (hcharging : Charging d s.grants tx.messages fee (g, .ok fee.account))
      (hmessages : tx.messages = [.claim c]) (hnew : s.ledger.account? c.rewardAddress = none)
      (hclaim : (d.claims s.claims (claimView s.ledger c) c).2.2 ≠ .ok ()) :
      Reviewed d s tx (settle ⟨s.ledger, g, (d.claims s.claims (claimView s.ledger c) c).1⟩
        fee.account fee.amount)
  /-- There was no claim to try. -/
  | settled {fee : Fee} {collector : Address} {g : σ} (h : tx.fee = some fee)
      (hc : s.ledger.moduleAddress? feeCollector = some collector)
      (hcharging : Charging d s.grants tx.messages fee (g, .ok fee.account))
      (hnew : ∀ c, tx.messages = [.claim c] → s.ledger.account? c.rewardAddress ≠ none) :
      Reviewed d s tx (settle { s with grants := g } fee.account fee.amount)

theorem reviewed_review (d : Admitter σ τ) (s : AdmissionState σ τ) (tx : Transaction) :
    Reviewed d s tx (d.review s tx) := by
  rw [review]
  split
  · rename_i h
    exact .noFee h
  rename_i fee h
  cases hc : s.ledger.moduleAddress? feeCollector with
  | none => exact .noCollector h hc
  | some collector =>
    rw [Option.isNone_some, if_neg Bool.false_ne_true]
    have hcharging := charging_chargedAccount d s.grants tx.messages fee
    split
    · rename_i g e hcharged
      rw [hcharged] at hcharging
      exact .refused h hc hcharging
    · rename_i g account hcharged
      rw [hcharged] at hcharging
      obtain rfl : account = fee.account := hcharging.eq_account
      rw [bootstrapOrCharge]
      cases hnew : newAccount? s.ledger tx.messages with
      | none =>
        refine .settled h hc hcharging fun c hmessages hnone ↦ ?_
        have hsome := newAccount?_eq_some.mpr ⟨hmessages, hnone⟩
        exact Option.some_ne_none c (hsome.symm.trans hnew)
      | some c =>
        obtain ⟨hmessages, hnone⟩ := newAccount?_eq_some.mp hnew
        cases htry : d.tryClaim s.ledger s.claims c with
        | mk t succeeds =>
          obtain ⟨rfl, hok⟩ := tryClaim_eq.mp htry
          cases succeeds with
          | true =>
            simp only [htry, Ledger.createAccount_of_none hnone]
            exact .bootstrapped h hc hcharging hmessages hnone (isOk_eq_true.mp hok)
          | false =>
            simp only [htry]
            refine .unclaimed h hc hcharging hmessages hnone fun hclaim ↦ ?_
            exact absurd (isOk_eq_true.mpr hclaim) (by simp [hok])

/-! ## Charging a fee -/

theorem deductFee_eq_ok {coins : Coins} : deductFee l a coins = .ok l' ↔
    coins.validate = .ok () ∧ ∃ collector, l.moduleAddress? feeCollector = some collector ∧
      l.transfer a collector coins = .ok l' := by
  rw [deductFee]
  split
  · rename_i e he
    exact ⟨fun h ↦ (nomatch h), fun h ↦ nomatch he.symm.trans h.1⟩
  · rename_i hvalid
    rw [mapError_eq_ok, Ledger.sendToModule, bind_eq_ok]
    simp only [Ledger.moduleAddress_eq_ok, hvalid, true_and]

/-- What it takes to charge a fee, and what becomes of the ledger. -/
theorem charge_eq_ok {coins : Coins} {r : Admission} : charge l a coins = .ok (l', r) ↔
    (l.account? a).isSome ∧ r = .charged a (.paid coins.text) ∧
      (coins.isZero = true ∧ l' = l ∨ coins.isZero = false ∧ deductFee l a coins = .ok l') := by
  rw [charge, Ledger.hasAccount]
  cases ha : (l.account? a).isSome with
  | false =>
    show Except.error _ = _ ↔ _
    simp
  | true =>
    cases hzero : coins.isZero with
    | true =>
      show Except.ok (l, _) = _ ↔ _
      simp only [Except.ok.injEq, Prod.mk.injEq]
      constructor
      · rintro ⟨rfl, rfl⟩
        exact ⟨trivial, rfl, .inl ⟨trivial, rfl⟩⟩
      · rintro ⟨-, rfl, ⟨-, rfl⟩ | ⟨h, -⟩⟩
        · exact ⟨rfl, rfl⟩
        · simp at h
    | false =>
      show (deductFee l a coins >>= fun l ↦ Except.ok (l, _)) = _ ↔ _
      rw [bind_eq_ok]
      constructor
      · rintro ⟨l₁, hl₁, h⟩
        obtain ⟨rfl, rfl⟩ := Prod.mk.injEq .. ▸ Except.ok.inj h
        exact ⟨rfl, rfl, .inr ⟨rfl, hl₁⟩⟩
      · rintro ⟨-, rfl, ⟨h, -⟩ | ⟨-, hl'⟩⟩
        · simp at h
        · exact ⟨l', hl', rfl⟩

theorem charge_eq_error {coins : Coins} {e : AdmissionError} : charge l a coins = .error e ↔
    l.account? a = none ∧ e = .unknownPayer a ∨
      (l.account? a).isSome ∧ coins.isZero = false ∧ deductFee l a coins = .error e := by
  rw [charge, Ledger.hasAccount]
  cases ha : l.account? a with
  | none =>
    constructor
    · intro h
      exact .inl ⟨rfl, (Except.error.inj h).symm⟩
    · rintro (⟨-, rfl⟩ | ⟨h, -⟩)
      · rfl
      · simp at h
  | some x =>
    cases hzero : coins.isZero with
    | true =>
      show Except.ok _ = _ ↔ _
      simp
    | false =>
      show (deductFee l a coins >>= fun l ↦ Except.ok (l, _)) = _ ↔ _
      refine bind_ok_eq_error.trans ⟨fun h ↦ .inr ⟨rfl, rfl, h⟩, ?_⟩
      rintro (⟨h, -⟩ | ⟨-, -, h⟩)
      · simp at h
      · exact h

/-- A fee that cannot be charged leaves everything as it was. -/
theorem settle_cases (s : AdmissionState σ τ) (a : Address) (coins : Coins) :
    (∃ l' r, charge s.ledger a coins = .ok (l', r) ∧
      settle s a coins = ({ s with ledger := l' }, .ok r)) ∨
    (∃ e, charge s.ledger a coins = .error e ∧ settle s a coins = (s, .error e)) := by
  rw [settle]
  cases hcharge : charge s.ledger a coins with
  | ok x => exact .inl ⟨x.1, x.2, rfl, rfl⟩
  | error e => exact .inr ⟨e, rfl, rfl⟩

theorem settle_snd (s : AdmissionState σ τ) (a : Address) (coins : Coins) :
    (settle s a coins).2 = (charge s.ledger a coins).map Prod.snd := by
  obtain ⟨l', r, hcharge, hsettle⟩ | ⟨e, hcharge, hsettle⟩ := settle_cases s a coins
  · rw [hcharge, hsettle]
    rfl
  · rw [hcharge, hsettle]
    rfl

theorem claims_settle (s : AdmissionState σ τ) (a : Address) (coins : Coins) :
    (settle s a coins).1.claims = s.claims := by
  obtain ⟨l', r, -, hsettle⟩ | ⟨e, -, hsettle⟩ := settle_cases s a coins
  · rw [hsettle]
  · rw [hsettle]

end Admitter

end Tokenomics
