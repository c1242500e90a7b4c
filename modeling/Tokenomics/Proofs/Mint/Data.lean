import Tokenomics.Mint.Genesis
import Tokenomics.Proofs.Address.Text
import Tokenomics.Proofs.Datum.Codec
import Tokenomics.Proofs.Decimal.Text

/-!
# Parameters and state as data

What the mint writes is read back unchanged, up to the sign of a zero: `restores_params`,
`restores_emissionState` and `restores_genesis`. The sign is all that `unsigned` takes away. A
genesis comes back from its JSON text in the same way (`Genesis.ofJson?_toJson`).
-/

namespace Tokenomics

/-- The state without the sign of a zero. -/
def EmissionState.unsigned (s : EmissionState) : EmissionState :=
  { s with provisions := s.provisions.unsignedZero }

/-- The shares without the signs of zeros. -/
def Shares.unsigned (s : Shares) : Shares :=
  ⟨s.grantsProgram.unsignedZero, s.communityPool.unsignedZero, s.usageIncentive.unsignedZero,
    s.staking.unsignedZero, s.developerRewards.unsignedZero⟩

/-- The parameters without the signs of zeros. -/
def Params.unsigned (p : Params) : Params :=
  { p with
    genesisProvisions := p.genesisProvisions.unsignedZero
    reductionFactor := p.reductionFactor.unsignedZero
    shares := p.shares.unsigned }

/-- The genesis without the signs of zeros. -/
def Genesis.unsigned (g : Genesis) : Genesis := ⟨g.params.unsigned, g.state.unsigned⟩

theorem Shares.of_unsigned (s : Shares) (pool : Pool) :
    s.unsigned.of pool = (s.of pool).unsignedZero := by
  cases pool <;> rfl

theorem Decimal.isZero_unsignedZero (a : Decimal) : a.unsignedZero.isZero = a.isZero := rfl

theorem Decimal.unsignedZero_of_isZero_eq_false {a : Decimal} (h : a.isZero = false) :
    a.unsignedZero = a := by
  rw [unsignedZero, h, Bool.not_false, Bool.and_true]

theorem Decimal.unsignedZero_unsignedZero (a : Decimal) :
    a.unsignedZero.unsignedZero = a.unsignedZero := by
  have hagain : (a.negative && !a.isZero && !a.isZero) = (a.negative && !a.isZero) := by
    rw [Bool.and_assoc, Bool.and_self]
  exact Decimal.mk.injEq .. ▸ ⟨hagain, rfl, rfl⟩

theorem EmissionState.unsigned_unsigned (s : EmissionState) :
    s.unsigned.unsigned = s.unsigned := by
  rw [unsigned, unsigned, Decimal.unsignedZero_unsignedZero]

theorem Params.unsigned_unsigned (p : Params) : p.unsigned.unsigned = p.unsigned := by
  simp only [unsigned, Shares.unsigned, Decimal.unsignedZero_unsignedZero]

namespace Codec

theorem restores_decimal (a : Decimal) : Restores a a.unsignedZero :=
  ⟨trivial, Decimal.ofText?_text a⟩

/-! ## The state -/

theorem restores_monthCursor (c : MonthCursor) : Restores c c where
  plain := ⟨(restores_uint64 c.months).plain, (restores_uint64 c.started).plain,
    (restores_uint64 c.period).plain, trivial⟩
  decode?_eq := by
    refine (Datum.fields?_bind ["months_since_genesis", "month_started_block",
      "one_month_period_in_blocks"] [encode c.months, encode c.started, encode c.period]
      (by decide) rfl _).trans ?_
    show (do
      return ⟨← decode? (encode c.months), ← decode? (encode c.started),
        ← decode? (encode c.period)⟩ : Option MonthCursor) = some c
    rw [(restores_uint64 c.months).decode?_eq, (restores_uint64 c.started).decode?_eq,
      (restores_uint64 c.period).decode?_eq]
    rfl

theorem restores_emissionState (s : EmissionState) : Restores s s.unsigned where
  plain := ⟨(restores_decimal s.provisions).plain, (restores_uint64 s.lastReduction).plain,
    (restores_monthCursor s.cursor).plain, trivial⟩
  decode?_eq := by
    refine (Datum.fields?_bind ["block_provisions", "last_reduction_block_num",
      "vesting_month_info"] [encode s.provisions, encode s.lastReduction, encode s.cursor]
      (by decide) rfl _).trans ?_
    show (do
      return ⟨← decode? (encode s.provisions), ← decode? (encode s.lastReduction),
        ← decode? (encode s.cursor)⟩ : Option EmissionState) = some s.unsigned
    rw [(restores_decimal s.provisions).decode?_eq, (restores_uint64 s.lastReduction).decode?_eq,
      (restores_monthCursor s.cursor).decode?_eq]
    rfl

/-! ## The parameters -/

theorem restores_shares (s : Shares) : Restores s s.unsigned where
  plain := ⟨(restores_decimal s.grantsProgram).plain, (restores_decimal s.communityPool).plain,
    (restores_decimal s.usageIncentive).plain, (restores_decimal s.staking).plain,
    (restores_decimal s.developerRewards).plain, trivial⟩
  decode?_eq := by
    refine (Datum.fields?_bind (Pool.all.map Pool.label)
      [encode s.grantsProgram, encode s.communityPool, encode s.usageIncentive, encode s.staking,
        encode s.developerRewards] (by decide) rfl _).trans ?_
    show (do
      return ⟨← decode? (encode s.grantsProgram), ← decode? (encode s.communityPool),
        ← decode? (encode s.usageIncentive), ← decode? (encode s.staking),
        ← decode? (encode s.developerRewards)⟩ : Option Shares) = some s.unsigned
    rw [(restores_decimal s.grantsProgram).decode?_eq,
      (restores_decimal s.communityPool).decode?_eq,
      (restores_decimal s.usageIncentive).decode?_eq, (restores_decimal s.staking).decode?_eq,
      (restores_decimal s.developerRewards).decode?_eq]
    rfl

theorem restores_receiver (r : Receiver) : Restores r r where
  plain := ⟨(restores_address r.address).plain, plain_self restores_uint64 r.monthlyAmounts,
    trivial⟩
  decode?_eq := by
    refine (Datum.fields?_bind ["address", "monthly_amounts"]
      [encode r.address, Datum.listOf encode r.monthlyAmounts] (by decide) rfl _).trans ?_
    show (do
      return ⟨← decode? (encode r.address),
        ← (Datum.listOf encode r.monthlyAmounts).asListOf? decode?⟩ : Option Receiver) = some r
    rw [(restores_address r.address).decode?_eq, asListOf?_self restores_uint64]
    rfl

theorem restores_params (p : Params) : Restores p p.unsigned where
  plain := ⟨trivial, (restores_decimal p.genesisProvisions).plain,
    (restores_uint64 p.reductionPeriod).plain, (restores_decimal p.reductionFactor).plain,
    (restores_shares p.shares).plain, plain_self restores_receiver p.receivers,
    (restores_address p.usageIncentiveAddress).plain,
    (restores_address p.grantsProgramAddress).plain, (restores_address p.teamReserveAddress).plain,
    (restores_uint64 p.startBlock).plain, trivial⟩
  decode?_eq := by
    refine (Datum.fields?_bind Params.fieldNames
      [.text p.denom, encode p.genesisProvisions, encode p.reductionPeriod,
        encode p.reductionFactor, encode p.shares, Datum.listOf encode p.receivers,
        encode p.usageIncentiveAddress, encode p.grantsProgramAddress,
        encode p.teamReserveAddress, encode p.startBlock] (by decide) rfl _).trans ?_
    show (do
      return ⟨← (Datum.text p.denom).asText?, ← decode? (encode p.genesisProvisions),
        ← decode? (encode p.reductionPeriod), ← decode? (encode p.reductionFactor),
        ← decode? (encode p.shares), ← (Datum.listOf encode p.receivers).asListOf? decode?,
        ← decode? (encode p.usageIncentiveAddress), ← decode? (encode p.grantsProgramAddress),
        ← decode? (encode p.teamReserveAddress), ← decode? (encode p.startBlock)⟩ :
      Option Params) = some p.unsigned
    rw [(restores_decimal p.genesisProvisions).decode?_eq,
      (restores_uint64 p.reductionPeriod).decode?_eq,
      (restores_decimal p.reductionFactor).decode?_eq, (restores_shares p.shares).decode?_eq,
      asListOf?_self restores_receiver, (restores_address p.usageIncentiveAddress).decode?_eq,
      (restores_address p.grantsProgramAddress).decode?_eq,
      (restores_address p.teamReserveAddress).decode?_eq, (restores_uint64 p.startBlock).decode?_eq]
    rfl

/-! ## The genesis -/

theorem restores_genesis (g : Genesis) : Restores g g.unsigned where
  plain := ⟨(restores_params g.params).plain, (restores_emissionState g.state).plain, trivial⟩
  decode?_eq := by
    refine (Datum.fields?_bind ["params", "state"] [encode g.params, encode g.state]
      (by decide) rfl _).trans ?_
    show (do return ⟨← decode? (encode g.params), ← decode? (encode g.state)⟩ : Option Genesis)
      = some g.unsigned
    rw [(restores_params g.params).decode?_eq, (restores_emissionState g.state).decode?_eq]
    rfl

end Codec

/-- A genesis is read back from its JSON text. -/
theorem Genesis.ofJson?_toJson (g : Genesis) : ofJson? g.toJson = some g.unsigned := by
  have hrestores := Codec.restores_genesis g
  rw [ofJson?, toJson, Json.decode?_pretty hrestores.plain, hrestores.decode?_eq]

end Tokenomics
