import Tokenomics.Json.Printer
import Tokenomics.Mint.Emission

/-!
# Reports

The totals of a simulation: how many blocks there were and which of them reduced the provisions,
how much was minted, what it was for, and how much vesting went to whom.
-/

namespace Tokenomics

/-- The totals of a run over some heights. -/
structure Report where
  startHeight : UInt64
  endHeight : UInt64
  blocks : Nat
  /-- The heights at which provisions were reduced. -/
  reductions : List UInt64
  minted : Amount
  /-- The sums of the payments by what they are for. -/
  byAllocation : SortedMap String Amount
  /-- The sums of vesting by the text of the address. -/
  vested : SortedMap String Amount
  supply : Amount
  finalState : Option EmissionState
deriving DecidableEq, Inhabited

/-- The name under which payments of an allocation are summed up. -/
def Allocation.label : Allocation → String
  | .pool p => p.label
  | .developerVesting _ => vestingLabel

namespace Report

/-- The report before the first block. -/
def start (startHeight endHeight : UInt64) : Report :=
  ⟨startHeight, endHeight, 0, [], .zero, ∅, ∅, .zero, none⟩

/-- An amount added to the sum under a name. -/
def addTo (m : SortedMap String Amount) (name : String) (n : Amount) : SortedMap String Amount :=
  m.modify name .zero (·.addSaturating n)

/-- The sums of vesting with a payment added, if it is vesting to an account. -/
def addVesting (m : SortedMap String Amount) (p : Payment) : SortedMap String Amount :=
  match p.allocation, p.recipient with
  | .developerVesting _, .account a => addTo m a.text p.amount.amount
  | _, _ => m

/-- The report with a payment added. -/
def addPayment (r : Report) (p : Payment) : Report :=
  { r with
    minted := r.minted.addSaturating p.amount.amount
    byAllocation := addTo r.byAllocation p.allocation.label p.amount.amount
    vested := addVesting r.vested p }

/-- The report with a block added. -/
def addBlock (r : Report) (e : Emission) : Report :=
  e.payments.foldl addPayment
    { r with
      blocks := r.blocks + 1
      reductions := if e.reduced then r.reductions ++ [e.height] else r.reductions }

/-- The report after the last block. -/
def finish (r : Report) (s : EmissionState) (supply : Amount) : Report :=
  { r with finalState := some s, supply }

/-- Sums by name as data. -/
def sumsData (m : SortedMap String Amount) : Datum :=
  .record (m.entries.map fun (k, n) ↦ (k, .nat n.toNat))

/-- The report as data. -/
def datum (r : Report) : Datum :=
  .record [("start_height", Codec.encode r.startHeight), ("end_height", Codec.encode r.endHeight),
    ("blocks", .nat r.blocks), ("reductions", .listOf Codec.encode r.reductions),
    ("minted", .nat r.minted.toNat), ("by_allocation", sumsData r.byAllocation),
    ("vested", sumsData r.vested), ("supply", .nat r.supply.toNat),
    ("final_state", .optional Codec.encode r.finalState)]

end Report

end Tokenomics
