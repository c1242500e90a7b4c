import Tokenomics.Coin.Data
import Tokenomics.Ledger.Book
import Tokenomics.Mint.Vesting

/-!
# The emission of a block

What a block emits is computed from the height, the parameters and the state, without a ledger.
Every reduction period the provisions shrink by the reduction factor; the provisions are split
over the pools, fractions of a base unit being dropped; and the months that the block enters are
paid out to the developers.

`processBlock` fails only where a decimal product has no representation.
-/

namespace Tokenomics

/-- What changes from block to block. -/
structure EmissionState where
  /-- How much a block emits now. -/
  provisions : Decimal
  /-- The height of the last reduction, or of the block that started the count; zero before. -/
  lastReduction : UInt64
  cursor : MonthCursor
deriving DecidableEq, Inhabited

/-- The state that a chain with the given parameters starts with. -/
def EmissionState.genesis (p : Params) (cursor : MonthCursor) : EmissionState :=
  ⟨p.genesisProvisions, 0, cursor⟩

/-- What a payment is for. -/
inductive Allocation where
  | pool (p : Pool)
  | developerVesting (month : UInt64)
deriving DecidableEq, Inhabited

/-- Where a payment goes. -/
inductive Recipient where
  | account (address : Address)
  | moduleAccount (name : String)
deriving DecidableEq, Inhabited

/-- One payment out of the mint's module account. -/
structure Payment where
  allocation : Allocation
  recipient : Recipient
  amount : Coin
deriving DecidableEq, Inhabited

/-- What a block emits. -/
structure Emission where
  height : UInt64
  /-- The state after the block. -/
  state : EmissionState
  /-- The payments: pools first, then vesting. -/
  payments : List Payment
  /-- Whether the block reduced the provisions. -/
  reduced : Bool
deriving DecidableEq, Inhabited

/-! ## Totals -/

namespace Emission

/-- The sum of some payments, or the largest amount. -/
def sumOf (l : List Payment) : Amount := .total (l.map (·.amount.amount))

/-- How much has to be minted for all payments. -/
def total (e : Emission) : Amount := sumOf e.payments

/-- How much is paid for one allocation. -/
def allocated (e : Emission) (a : Allocation) : Amount :=
  sumOf (e.payments.filter (·.allocation = a))

/-- Whether a payment is vesting for an address. -/
def vestsTo (a : Address) (p : Payment) : Bool :=
  match p.allocation with
  | .developerVesting _ => p.recipient = .account a
  | .pool _ => false

/-- How much vesting is paid to an address. -/
def vestedTo (e : Emission) (a : Address) : Amount := sumOf (e.payments.filter (vestsTo a))

end Emission

/-! ## Reduction -/

/-- The whole units in a decimal; none in a negative one. -/
def wholeUnits (v : Decimal) : Nat := v.floor?.getD 0

theorem wholeUnits_lt (v : Decimal) : wholeUnits v < 1 <<< 128 := by
  have := v.magnitude_lt
  simp only [wholeUnits, Decimal.floor?]
  split
  · decide
  · exact Nat.lt_of_le_of_lt (Nat.div_le_self _ _) (Nat.lt_trans this (by decide))

/-- The whole units in a decimal as an amount. -/
def truncateToUnits (v : Decimal) : Amount := ⟨wholeUnits v, wholeUnits_lt v⟩

/-- The provisions after a reduction: the product with the factor, cut to 18 places. -/
def reducedProvisions (p : Params) (provisions : Decimal) : Except ArithmeticOverflow Decimal :=
  return (← provisions.mul p.reductionFactor).truncateTo provisionsPlaces

/-- The state after the reduction rule has been applied at a height, and whether the provisions
were reduced. The first block only starts the count. -/
def applyReduction (height : UInt64) (p : Params) (s : EmissionState) :
    Except ArithmeticOverflow (EmissionState × Bool) :=
  if s.lastReduction = 0 then return ({ s with lastReduction := height }, false)
  else if Word.sub height s.lastReduction < p.reductionPeriod then return (s, false)
  else do
    let provisions ← reducedProvisions p s.provisions
    return ({ s with provisions, lastReduction := height }, true)

/-! ## Distribution -/

/-- Where the share of a pool goes. -/
def Pool.recipient (p : Params) : Pool → Recipient
  | .grantsProgram => .account p.grantsProgramAddress
  | .communityPool => .moduleAccount Tokenomics.communityPool
  | .usageIncentive => .account p.usageIncentiveAddress
  | .staking => .moduleAccount feeCollector
  | .developerRewards => .account p.teamReserveAddress

/-- The payment to a pool; none when its share is less than one unit. -/
def poolPayment (p : Params) (provisions : Decimal) (pool : Pool) :
    Except ArithmeticOverflow (Option Payment) := do
  let amount := truncateToUnits (← provisions.mul (p.shares.of pool))
  if amount.isZero then return none
  return some ⟨.pool pool, pool.recipient p, ⟨p.denom, amount⟩⟩

/-- The payments to the pools out of some provisions. -/
def poolPayments (p : Params) (provisions : Decimal) : Except ArithmeticOverflow (List Payment) :=
  return (← Pool.all.mapM (poolPayment p provisions)).filterMap id

/-! ## Vesting -/

/-- The payment to a receiver for a month; none when nothing is owed. -/
def vestingPayment (p : Params) (month : UInt64) (r : Receiver) : Option Payment :=
  let amount := r.amountFor month
  if amount.isZero then none
  else some ⟨.developerVesting month, .account r.address, ⟨p.denom, amount⟩⟩

/-- The payments for the months of a range, month by month and within a month in the order of the
table. -/
def vestingPayments (p : Params) (months : MonthRange) : List Payment :=
  (months.upTo (scheduleLength p.receivers)).flatMap fun month ↦
    p.receivers.filterMap (vestingPayment p month)

/-! ## Blocks -/

/-- What a block emits. Before the start block nothing is emitted and the state stays as it is. -/
def processBlock (height : UInt64) (p : Params) (s : EmissionState) :
    Except ArithmeticOverflow Emission :=
  if height < p.startBlock then return ⟨height, s, [], false⟩
  else do
    let (s, reduced) ← applyReduction height p s
    let (cursor, months) := s.cursor.advance height
    let pools ← poolPayments p s.provisions
    return ⟨height, { s with cursor }, pools ++ vestingPayments p months, reduced⟩

/-! ## As data -/

instance : Codec EmissionState where
  encode s := .record [("block_provisions", Codec.encode s.provisions),
    ("last_reduction_block_num", Codec.encode s.lastReduction),
    ("vesting_month_info", Codec.encode s.cursor)]
  decode? d := do
    let [some provisions, some last, some cursor] ← d.fields?
      ["block_provisions", "last_reduction_block_num", "vesting_month_info"] | none
    return ⟨← Codec.decode? provisions, ← Codec.decode? last, ← Codec.decode? cursor⟩

/-- The pool of that name. -/
def Pool.ofLabel? (s : String) : Option Pool := Pool.all.find? (·.label == s)

/-- The name of monthly vesting in data. -/
def vestingLabel : String := "developer_vesting"

instance : Codec Allocation where
  encode
    | .pool p => .text p.label
    | .developerVesting month =>
      .record [(vestingLabel, .record [("month", Codec.encode month)])]
  decode?
    | .text s => (Pool.ofLabel? s).map .pool
    | .record [(s, .null)] => (Pool.ofLabel? s).map .pool
    | .record [(s, d)] => do
      let [some month] ← d.fields? ["month"] | none
      if s = vestingLabel then return .developerVesting (← Codec.decode? month) else none
    | _ => none

instance : Codec Recipient where
  encode
    | .account a => .record [("account", Codec.encode a)]
    | .moduleAccount name => .record [("module", .text name)]
  decode?
    | .record [("account", d)] => (Codec.decode? d).map .account
    | .record [("module", d)] => d.asText?.map .moduleAccount
    | _ => none

instance : Codec Payment where
  encode p := .record [("allocation", Codec.encode p.allocation),
    ("recipient", Codec.encode p.recipient), ("amount", Codec.encode p.amount)]
  decode? d := do
    let [some allocation, some recipient, some amount] ←
      d.fields? ["allocation", "recipient", "amount"] | none
    return ⟨← Codec.decode? allocation, ← Codec.decode? recipient, ← Codec.decode? amount⟩

instance : Codec Emission where
  encode e := .record [("height", Codec.encode e.height), ("state", Codec.encode e.state),
    ("transfers", .listOf Codec.encode e.payments), ("reduced", .bool e.reduced)]
  decode? d := do
    let [some height, some state, some payments, some reduced] ←
      d.fields? ["height", "state", "transfers", "reduced"] | none
    return ⟨← Codec.decode? height, ← Codec.decode? state, ← payments.asListOf? Codec.decode?,
      ← reduced.asBool?⟩

end Tokenomics
