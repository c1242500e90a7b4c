import Tokenomics.Mint.Keeper
import Tokenomics.Mint.VestingTable
import Tokenomics.Simulation.Report
import Tokenomics.Simulation.Settings

/-!
# Running a simulation

A run takes the genesis that the settings describe, starts the mint from it unless the store
already holds a state, processes every height on a fresh ledger, and reports the totals. The
genesis has to be sound even when the stored state is what counts.
-/

namespace Tokenomics

/-- Why a run failed. -/
inductive RunError where
  | unreadableGenesis (path : String)
  | unreadableVestingTable (path : String)
  | vesting (cause : VestingError)
  | params (cause : ParamsError)
  | unopenedStore (path : String)
  | mint (cause : MintError)
  | block (height : UInt64) (cause : MintError)
deriving DecidableEq, Inhabited

namespace RunError

/-- What was being done when a run failed; none where only the cause is told. -/
def context? : RunError → Option String
  | .unreadableGenesis path => some ("reading genesis " ++ path)
  | .unreadableVestingTable path => some ("reading vesting table " ++ path)
  | .unopenedStore path => some ("opening mint store at " ++ path)
  | .block height _ => some ("end block at height " ++ toString height.toNat)
  | .vesting _ | .params _ | .mint _ => none

/-- The wording of what caused a run to fail, where there is more to tell than the context. -/
def cause? : RunError → Option String
  | .unreadableGenesis _ | .unreadableVestingTable _ | .unopenedStore _ => none
  | .vesting cause => some cause.message
  | .params cause => some cause.message
  | .mint cause | .block _ cause => some cause.message

/-- The wording of a run error: the context, then the cause. -/
def message (e : RunError) : String :=
  String.intercalate ": " (e.context?.toList ++ e.cause?.toList)

end RunError

namespace Simulation

/-! ## The genesis -/

/-- The genesis in a file, which is TOML or JSON by its extension. -/
def readGenesis (read : String → Option String) (path : String) : Except RunError Genesis :=
  match read path with
  | none => .error (.unreadableGenesis path)
  | some content =>
    let g := if Path.extension? path = some "toml" then Toml.decode? content
      else Genesis.ofJson? content
    match g with
    | some g => .ok g
    | none => .error (.mint .undecodableGenesis)

/-- The receivers in a vesting table. -/
def readReceivers (s : Settings) (read : String → Option String) (path : String) :
    Except RunError (List Receiver) :=
  match read path with
  | none => .error (.unreadableVestingTable path)
  | some content => (VestingTable.parse s.aliases content).mapError .vesting

/-- The genesis with other receivers. -/
def withReceivers (g : Genesis) (receivers : List Receiver) : Genesis :=
  { g with params := { g.params with receivers } }

/-- The genesis with other months. -/
def withMonthPeriod (g : Genesis) (period : UInt64) : Genesis :=
  { g with state := { g.state with cursor := { g.state.cursor with period } } }

/-- The genesis that the settings describe. -/
def genesis (s : Settings) (read : String → Option String) : Except RunError Genesis := do
  let g ← match s.genesisPath with
    | some path => readGenesis read path
    | none => pure .standard
  let g ← match s.vestingTable with
    | some path => pure (withReceivers g (← readReceivers s read path))
    | none => pure g
  let g := match s.monthPeriod with
    | some period => withMonthPeriod g period
    | none => g
  g.validate.mapError .params
  return g

/-! ## Blocks -/

/-- The store from which blocks can be processed: as it is when it holds a state, and with the
genesis written otherwise. -/
def prepare (s : Store) (g : Genesis) : Store × Except RunError Unit :=
  match Keeper.state s with
  | .ok _ => (s, .ok ())
  | .error (.missingRecord _) =>
    match Keeper.initGenesis s g with
    | (s, r) => (s, r.mapError .mint)
  | .error e => (s, .error (.mint e))

/-- Process heights in turn, adding each block to the report, up to the first that fails. -/
def processHeights (s : Store) (l : Ledger) (r : Report) :
    List UInt64 → Store × Except RunError (Ledger × Report)
  | [] => (s, .ok (l, r))
  | h :: rest =>
    match Keeper.endBlock s l h with
    | .ok (e, s, l) => processHeights s l (r.addBlock e) rest
    | .error e => (s, .error (.block h e))

/-- The report completed from the final store and ledger. -/
def conclude (s : Store) (l : Ledger) (denom : String) (r : Report) : Except RunError Report := do
  let st ← (Keeper.state s).mapError .mint
  return r.finish st (l.supply denom)

/-- Run over all heights of the settings on a store; the store afterwards, and the report. -/
def simulate (s : Store) (g : Genesis) (settings : Settings) : Store × Except RunError Report :=
  match prepare s g with
  | (s, .error e) => (s, .error e)
  | (s, .ok ()) =>
    match Keeper.params s with
    | .error e => (s, .error (.mint e))
    | .ok p =>
      match processHeights s (.book .standard)
        (.start settings.startHeight settings.endHeight) settings.heights with
      | (s, .error e) => (s, .error e)
      | (s, .ok (l, r)) => (s.flush, conclude s l p.denom r)

end Simulation

end Tokenomics
