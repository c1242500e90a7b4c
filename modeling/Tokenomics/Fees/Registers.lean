import Tokenomics.Fees.Admission

/-!
# Registers of grants and allocations

Plain collaborators for the admission of transactions: fee grants that are limits in one
denomination, used up by the fees paid under them, and allocations paid out of a module account.
Both keep count of how often they have been asked.
-/

namespace Tokenomics

/-! ## Fee grants -/

/-- Who grants fees to whom. Grants are ordered by granter, then grantee. -/
structure Grant where
  granter : Address
  grantee : Address
deriving DecidableEq, Inhabited

namespace Grant

instance : Ord Grant := ⟨compareLex (compareOn granter) (compareOn grantee)⟩

instance : Std.TransOrd Grant :=
  inferInstanceAs (Std.TransCmp (compareLex (compareOn granter) (compareOn grantee)))

instance : Std.LawfulEqOrd Grant where
  eq_of_compare {a b} h := by
    have h' := Ordering.then_eq_eq.mp (show (compare a.granter b.granter).then
      (compare a.grantee b.grantee) = .eq from h)
    cases a
    cases b
    simp_all

end Grant

/-- What is left of each grant, and how often the register has been asked. -/
structure GrantRegister where
  limits : SortedMap Grant Amount
  calls : Nat

namespace GrantRegister

/-- Consume a grant by the amount of `denom` in the fee. -/
def use (denom : String) : GrantKeeper GrantRegister := fun r request ↦
  let r := { r with calls := r.calls + 1 }
  let grant : Grant := ⟨request.granter, request.grantee⟩
  let fee := request.fee.amountOf denom
  match r.limits.get? grant with
  | none => (r, .error "fee-grant not found")
  | some limit =>
    if limit < fee then (r, .error "fee limit exceeded")
    else ({ r with limits := r.limits.insert grant (limit.sub fee) }, .ok ())

end GrantRegister

/-! ## Allocations -/

/-- A claim that has been tried. -/
structure ClaimAttempt where
  publicKey : String
  /-- Whether the rewarded account was on record when the claim was tried. -/
  accountExists : Bool
  result : Except ClaimError Unit

/-- The allocations to be claimed, those that have been, and what has been tried. -/
structure AllocationRegister where
  allocations : SortedMap String Amount
  claimed : List String
  attempts : List ClaimAttempt

namespace AllocationRegister

/-- The module account that allocations are paid from. -/
def airdropModule : String := "airdrop"

/-- The signature that is accepted. -/
def validSignature : String := "valid-signature"

/-- Pay an allocation of `denom` to the rewarded account. -/
def pay (denom : String) (r : AllocationRegister) (l : Ledger) (c : Claim) :
    Except ClaimError Ledger :=
  if c.signature ≠ validSignature then .error .invalidSignature
  else if r.claimed.contains c.externalAddress then .error (.alreadyClaimed c.externalAddress)
  else match r.allocations.get? c.externalAddress with
    | none => .error (.noSuchAllocation c.externalAddress)
    | some amount =>
      (l.sendFromModule airdropModule c.rewardAddress (.single denom amount)).mapError
        fun _ ↦ .noSuchAllocation c.externalAddress

/-- Try a claim. -/
def claim (denom : String) : ClaimKeeper AllocationRegister := fun r l c ↦
  let log (result : Except ClaimError Unit) : AllocationRegister :=
    { r with attempts := ⟨c.publicKey, l.hasAccount c.rewardAddress, result⟩ :: r.attempts }
  match pay denom r l c with
  | .ok l => (log (.ok ()), l, .ok ())
  | .error e => (log (.error e), l, .error e)

end AllocationRegister

end Tokenomics
