import Tokenomics.Address.Data
import Tokenomics.Coin.Coins
import Tokenomics.Decimal.Arithmetic
import Tokenomics.Decimal.Data

/-!
# Parameters of the emission

What governs how many coins each block emits and who gets them: the denomination, the reduction
schedule, the shares of the five pools, the vesting table, and the addresses of the pools that are
plain accounts. `Params.validate` gives the first rule that a set of parameters breaks.
-/

namespace Tokenomics

/-- The five parts into which the emission of a block is split, in the order of payment. -/
inductive Pool where
  | grantsProgram
  | communityPool
  | usageIncentive
  | staking
  | developerRewards
deriving DecidableEq, Inhabited

namespace Pool

/-- All pools in the order of payment. -/
def all : List Pool := [grantsProgram, communityPool, usageIncentive, staking, developerRewards]

/-- The name of a pool in messages. -/
def title : Pool → String
  | grantsProgram => "grants program"
  | communityPool => "community pool"
  | usageIncentive => "usage incentive"
  | staking => "staking"
  | developerRewards => "developer rewards"

/-- The name of a pool in data. -/
def label : Pool → String
  | grantsProgram => "grants_program"
  | communityPool => "community_pool"
  | usageIncentive => "usage_incentive"
  | staking => "staking"
  | developerRewards => "developer_rewards"

end Pool

/-- The share of each pool in the emission of a block. -/
structure Shares where
  grantsProgram : Decimal
  communityPool : Decimal
  usageIncentive : Decimal
  staking : Decimal
  developerRewards : Decimal
deriving DecidableEq, Inhabited

/-- A developer and what is paid to them each month; the first amount is for month 1. -/
structure Receiver where
  address : Address
  monthlyAmounts : List UInt64
deriving DecidableEq, Inhabited

/-- The parameters of the emission. -/
structure Params where
  /-- The denomination of every emitted coin. -/
  denom : String
  /-- How much each block emits at genesis. -/
  genesisProvisions : Decimal
  /-- How many blocks lie between two reductions. -/
  reductionPeriod : UInt64
  /-- What a reduction multiplies the provisions by. -/
  reductionFactor : Decimal
  shares : Shares
  receivers : List Receiver
  usageIncentiveAddress : Address
  grantsProgramAddress : Address
  teamReserveAddress : Address
  /-- The first height at which anything is emitted. -/
  startBlock : UInt64
deriving DecidableEq, Inhabited

/-- Which rule parameters or a genesis state break. -/
inductive ParamsError where
  | blankDenom
  | invalidDenom (cause : CoinError)
  | negativeGenesisProvisions (value : Decimal)
  | nonPositiveReductionPeriod (value : UInt64)
  | reductionFactorOutOfRange (value : Decimal)
  | negativeShare (pool : Pool)
  | shareSum (total : Decimal)
  | negativeBlockProvisions (value : Decimal)
  | excessPrecision (value : Decimal)
  | zeroMonthPeriod
  /-- The shares have no sum. -/
  | arithmetic (cause : ArithmeticOverflow)
deriving DecidableEq, Inhabited

/-- The wording of a parameter error. -/
def ParamsError.message : ParamsError → String
  | .blankDenom => "mint denom cannot be blank"
  | .invalidDenom cause => "invalid mint denom: " ++ cause.message
  | .negativeGenesisProvisions v => "genesis block provision must be non-negative: " ++ v.text
  | .nonPositiveReductionPeriod n => "reduction period must be positive: " ++ toString n.toNat
  | .reductionFactorOutOfRange v => "reduction factor must lie in [0, 1]: " ++ v.text
  | .negativeShare pool => pool.title ++ " distribution ratio should not be negative"
  | .shareSum total => "total distributions ratio should be 1, got " ++ total.text
  | .negativeBlockProvisions v => "block provisions must be non-negative: " ++ v.text
  | .excessPrecision v => "provisions " ++ v.text ++ " carry more than 18 fractional digits"
  | .zeroMonthPeriod => "one month period must be positive"
  | .arithmetic cause => cause.message

/-! ## Shares -/

namespace Shares

/-- The share of a pool. -/
def of (s : Shares) : Pool → Decimal
  | .grantsProgram => s.grantsProgram
  | .communityPool => s.communityPool
  | .usageIncentive => s.usageIncentive
  | .staking => s.staking
  | .developerRewards => s.developerRewards

/-- The shares in the order of payment. -/
def toList (s : Shares) : List Decimal := Pool.all.map s.of

/-- The sum of the shares. -/
def total (s : Shares) : Except ArithmeticOverflow Decimal := Decimal.sum s.toList

/-- Accept a share that is not negative. -/
def checkSign (s : Shares) (pool : Pool) : Except ParamsError Unit :=
  if s.of pool < .zero then .error (.negativeShare pool) else .ok ()

/-- Accept shares none of which is negative and whose sum is one. -/
def validate (s : Shares) : Except ParamsError Unit := do
  Pool.all.forM s.checkSign
  match s.total with
  | .error e => throw (.arithmetic e)
  | .ok total => if total.SameValue .one then pure () else throw (.shareSum total)

/-- The shares that a chain starts with: ten, ten, twenty-five, forty and fifteen hundredths. -/
def standard : Shares :=
  ⟨.hundredths 10, .hundredths 10, .hundredths 25, .hundredths 40, .hundredths 15⟩

end Shares

/-! ## Validation -/

/-- How many digits behind the point provisions may have. -/
def provisionsPlaces : Nat := 18

/-- Accept provisions that need no more than 18 digits behind the point. -/
def checkPrecision (provisions : Decimal) : Except ParamsError Unit :=
  if provisionsPlaces < provisions.fractionDigits then .error (.excessPrecision provisions)
  else .ok ()

namespace Params

/-- Accept a denomination to mint. -/
def checkMintDenom (denom : String) : Except ParamsError Unit :=
  if Text.allBlank denom then .error .blankDenom
  else match checkDenom denom with
    | .ok () => .ok ()
    | .error e => .error (.invalidDenom e)

/-- Accept parameters that break no rule, or give the first one broken. -/
def validate (p : Params) : Except ParamsError Unit := do
  checkMintDenom p.denom
  if p.genesisProvisions < .zero then throw (.negativeGenesisProvisions p.genesisProvisions)
  checkPrecision p.genesisProvisions
  if p.reductionPeriod = 0 then throw (.nonPositiveReductionPeriod p.reductionPeriod)
  if p.reductionFactor < .zero ∨ .one < p.reductionFactor then
    throw (.reductionFactorOutOfRange p.reductionFactor)
  p.shares.validate

/-- The base denomination of the chain. -/
def bondDenom : String := "ufury"

/-- The parameters that a chain starts with. -/
def standard : Params where
  denom := bondDenom
  genesisProvisions := .ofNat 47000000
  reductionPeriod := 6307200
  reductionFactor := ⟨false, 6666, 4, by decide, by decide⟩
  shares := .standard
  receivers := []
  usageIncentiveAddress := .derive "furya/usage_incentive"
  grantsProgramAddress := .derive "furya/grants_program"
  teamReserveAddress := .derive "furya/team_reserve"
  startBlock := 0

end Params

/-! ## As data -/

instance : Codec Shares where
  encode s := .record (Pool.all.map fun p ↦ (p.label, Codec.encode (s.of p)))
  decode? d := do
    let [some grants, some community, some usage, some staking, some developers] ←
      d.fields? (Pool.all.map Pool.label) | none
    return ⟨← Codec.decode? grants, ← Codec.decode? community, ← Codec.decode? usage,
      ← Codec.decode? staking, ← Codec.decode? developers⟩

instance : Codec Receiver where
  encode r := .record [("address", Codec.encode r.address),
    ("monthly_amounts", .listOf Codec.encode r.monthlyAmounts)]
  decode? d := do
    let [some address, some amounts] ← d.fields? ["address", "monthly_amounts"] | none
    return ⟨← Codec.decode? address, ← amounts.asListOf? Codec.decode?⟩

/-- The names of the parameters in data. -/
def Params.fieldNames : List String :=
  ["mint_denom", "genesis_block_provisions", "reduction_period_in_blocks", "reduction_factor",
    "distribution_proportions", "weighted_developer_rewards_receivers", "usage_incentive_address",
    "grants_program_address", "team_reserve_address", "minting_rewards_distribution_start_block"]

instance : Codec Params where
  encode p := .record (Params.fieldNames.zip
    [.text p.denom, Codec.encode p.genesisProvisions, Codec.encode p.reductionPeriod,
      Codec.encode p.reductionFactor, Codec.encode p.shares,
      .listOf Codec.encode p.receivers, Codec.encode p.usageIncentiveAddress,
      Codec.encode p.grantsProgramAddress, Codec.encode p.teamReserveAddress,
      Codec.encode p.startBlock])
  decode? d := do
    let [some denom, some provisions, some period, some factor, some shares, some receivers,
      some usage, some grants, some team, some start] ← d.fields? Params.fieldNames | none
    return ⟨← denom.asText?, ← Codec.decode? provisions, ← Codec.decode? period,
      ← Codec.decode? factor, ← Codec.decode? shares, ← receivers.asListOf? Codec.decode?,
      ← Codec.decode? usage, ← Codec.decode? grants, ← Codec.decode? team, ← Codec.decode? start⟩

end Tokenomics
