import Tokenomics.Fees.Transaction
import Tokenomics.Ledger.Transfer

/-!
# Admission of transactions

Before a transaction runs it is decided who pays its fee: the payer, a granter in the payer's
place, or nobody, when the transaction is a single claim by which a new account comes to be.

Two collaborators are asked on the way, each with a state of its own: one that keeps fee grants,
and one that keeps the allocations to be claimed. A claim is tried on a view of the ledger which is
thrown away whatever comes of it.
-/

namespace Tokenomics

/-! ## Collaborators -/

/-- Why a claim is refused. -/
inductive ClaimError where
  | invalidSignature
  | noSuchAllocation (externalAddress : String)
  | alreadyClaimed (externalAddress : String)
deriving DecidableEq, Inhabited

/-- The wording of a claim error. -/
def ClaimError.message : ClaimError → String
  | .invalidSignature => "invalid claim signature"
  | .noSuchAllocation a => "no allocation registered for " ++ a
  | .alreadyClaimed a => "allocation for " ++ a ++ " has already been claimed"

/-- A request to pay the fee of some messages for somebody else. -/
structure GrantRequest where
  granter : Address
  grantee : Address
  fee : Coins
  messages : List Message

/-- A keeper of fee grants: it consumes a grant or gives the reason why not. -/
abbrev GrantKeeper (σ : Type) := σ → GrantRequest → σ × Except String Unit

/-- A keeper of allocations: it writes a claim to the ledger that it is given, or refuses it. -/
abbrev ClaimKeeper (τ : Type) := τ → Ledger → Claim → τ × Ledger × Except ClaimError Unit

/-! ## Outcomes and errors -/

/-- What others are told of once a fee has been charged. -/
inductive FeeEvent where
  /-- The fee as it was written. -/
  | paid (fee : String)
deriving DecidableEq, Inhabited

/-- The name of a fee event in data. -/
def paidLabel : String := "fee_paid"

instance : Codec FeeEvent where
  encode
    | .paid fee => .record [("type", .text paidLabel), ("fee", .text fee)]
  decode? d := do
    let (kind, content) ← d.setAside? 0
    let [some fee] ← content.fields? ["fee"] | none
    if kind = paidLabel then return .paid (← fee.asText?) else none

/-- How a transaction may go on. -/
inductive Admission where
  /-- A new account was created for the signer of a claim, and no fee was charged. -/
  | bootstrapped (account : Address)
  /-- The fee was charged to an account. -/
  | charged (account : Address) (event : FeeEvent)
deriving DecidableEq, Inhabited

/-- How a refusal is treated. -/
inductive ErrorKind where
  | config
  | validation
  | authorization
  | insufficientFunds
deriving DecidableEq, Inhabited

/-- Why a transaction is not admitted. -/
inductive AdmissionError where
  | noFee
  | noCollector (name : String)
  | grantsDisabled
  | grantDenied (granter payer : Address) (reason : String)
  | unknownPayer (account : Address)
  | invalidFee (fee : Coins) (cause : CoinError)
  | unpaid (cause : LedgerError)
deriving DecidableEq, Inhabited

namespace AdmissionError

/-- The wording of an admission error. -/
def message : AdmissionError → String
  | .noFee => "tx must carry a fee, a fee payer and an optional fee granter"
  | .noCollector name => "fee collector module account (" ++ name ++ ") has not been set"
  | .grantsDisabled => "fee grants are not enabled"
  | .grantDenied granter payer reason =>
    granter.text ++ " not allowed to pay fees from " ++ payer.text ++ ": " ++ reason
  | .unknownPayer a => "fee payer address: " ++ a.text ++ " does not exist"
  | .invalidFee fee _ => "invalid fee amount: " ++ fee.text
  | .unpaid cause => "insufficient funds to pay fee: " ++ cause.message

/-- The kind of an admission error. -/
def kind : AdmissionError → ErrorKind
  | .noCollector _ => .config
  | .noFee | .grantsDisabled | .invalidFee .. => .validation
  | .grantDenied .. | .unknownPayer _ => .authorization
  | .unpaid _ => .insufficientFunds

/-- Why a grant was denied, if that is the error. -/
def grantReason? : AdmissionError → Option String
  | .grantDenied _ _ reason => some reason
  | _ => none

end AdmissionError

/-! ## The decision -/

/-- The collaborators asked; fee grants may not be kept at all. -/
structure Admitter (σ τ : Type) where
  grants : Option (GrantKeeper σ)
  claims : ClaimKeeper τ

/-- All that a decision reads and changes. -/
structure AdmissionState (σ τ : Type) where
  ledger : Ledger
  grants : σ
  claims : τ

/-- Move a fee from an account to the fee collector. -/
def deductFee (l : Ledger) (account : Address) (fee : Coins) : Except AdmissionError Ledger :=
  match fee.validate with
  | .error e => .error (.invalidFee fee e)
  | .ok () => (l.sendToModule account feeCollector fee).mapError .unpaid

namespace Admitter

variable {σ τ : Type}

/-- Who is to pay, a grant being consumed where the granter is somebody else than the payer. -/
def chargedAccount (d : Admitter σ τ) (g : σ) (messages : List Message) (fee : Fee) :
    σ × Except AdmissionError Address :=
  match fee.granter with
  | none => (g, .ok fee.payer)
  | some granter =>
    match d.grants with
    | none => (g, .error .grantsDisabled)
    | some keeper =>
      if granter = fee.payer then (g, .ok granter)
      else
        match keeper g ⟨granter, fee.payer, fee.amount, messages⟩ with
        | (g, .ok ()) => (g, .ok granter)
        | (g, .error reason) => (g, .error (.grantDenied granter fee.payer reason))

/-- The account that a transaction could bootstrap: the one that a single claim rewards, when there
is none yet. -/
def newAccount? (l : Ledger) : List Message → Option Claim
  | [.claim c] => if l.hasAccount c.rewardAddress then none else some c
  | _ => none

/-- Try a claim on a view in which its account exists. -/
def tryClaim (d : Admitter σ τ) (l : Ledger) (t : τ) (c : Claim) : τ × Bool :=
  let (t, _, result) := d.claims t (l.fork.setAccount (.fresh c.rewardAddress)) c
  (t, result.isOk)

/-- Charge a fee to an account that must exist; nothing moves when the fee is zero. -/
def charge (l : Ledger) (account : Address) (fee : Coins) :
    Except AdmissionError (Ledger × Admission) := do
  if !l.hasAccount account then throw (.unknownPayer account)
  let l ← if fee.isZero then pure l else deductFee l account fee
  return (l, .charged account (.paid fee.text))

/-- The state with a fee charged. -/
def settle (s : AdmissionState σ τ) (account : Address) (fee : Coins) :
    AdmissionState σ τ × Except AdmissionError Admission :=
  match charge s.ledger account fee with
  | .ok (l, a) => ({ s with ledger := l }, .ok a)
  | .error e => (s, .error e)

/-- Bootstrap an account if the messages and the keeper of allocations allow it, and charge the fee
otherwise. -/
def bootstrapOrCharge (d : Admitter σ τ) (s : AdmissionState σ τ) (messages : List Message)
    (account : Address) (fee : Coins) : AdmissionState σ τ × Except AdmissionError Admission :=
  match newAccount? s.ledger messages with
  | none => settle s account fee
  | some c =>
    match d.tryClaim s.ledger s.claims c with
    | (t, true) =>
      ({ s with ledger := s.ledger.createAccount c.rewardAddress, claims := t },
        .ok (.bootstrapped c.rewardAddress))
    | (t, false) => settle { s with claims := t } account fee

/-- Decide about a transaction. -/
def review (d : Admitter σ τ) (s : AdmissionState σ τ) (tx : Transaction) :
    AdmissionState σ τ × Except AdmissionError Admission :=
  match tx.fee with
  | none => (s, .error .noFee)
  | some fee =>
    if (s.ledger.moduleAddress? feeCollector).isNone then (s, .error (.noCollector feeCollector))
    else
      match d.chargedAccount s.grants tx.messages fee with
      | (g, .error e) => ({ s with grants := g }, .error e)
      | (g, .ok account) =>
        d.bootstrapOrCharge { s with grants := g } tx.messages account fee.amount

end Admitter

end Tokenomics
