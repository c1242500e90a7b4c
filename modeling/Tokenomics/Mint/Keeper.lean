import Tokenomics.Ledger.Transfer
import Tokenomics.Mint.Genesis
import Tokenomics.Store.Record

/-!
# Keeping the mint

The mint's parameters and state live as two records of a store. A block is settled on a view of
the ledger: its total is minted and every payment made there; then the new state is written, and
only then the view is committed. Whatever fails, ledger and store stay as they were.
-/

namespace Tokenomics

/-- Why the mint could not do its work. -/
inductive MintError where
  | params (cause : ParamsError)
  | store (cause : StoreError)
  | ledger (cause : LedgerError)
  | missingRecord (key : String)
  | undecodableGenesis
  | arithmetic (cause : ArithmeticOverflow)
deriving DecidableEq, Inhabited

/-- The wording of a mint error. -/
def MintError.message : MintError → String
  | .params cause => "invalid mint params: " ++ cause.message
  | .store cause => "mint storage error: " ++ cause.message
  | .ledger cause => "mint settlement failed: " ++ cause.message
  | .missingRecord key => "mint record " ++ key ++ " has not been initialized"
  | .undecodableGenesis => "genesis decode error"
  | .arithmetic cause => cause.message

namespace Keeper

/-- The key of the parameters. -/
def paramsKey : String := "mint/params"

/-- The key of the state. -/
def stateKey : String := "mint/state"

/-! ## Records -/

/-- A record that has to be there. -/
def required {α : Type} [Codec α] (s : Store) (key : String) : Except MintError α :=
  match s.getRecord key with
  | .ok (some a) => .ok a
  | .ok none => .error (.missingRecord key)
  | .error e => .error (.store e)

/-- The stored parameters. -/
def params (s : Store) : Except MintError Params := required s paramsKey

/-- The stored state. -/
def state (s : Store) : Except MintError EmissionState := required s stateKey

/-- Write a record. -/
def put {α : Type} [Codec α] (s : Store) (key : String) (a : α) : Except MintError Store :=
  match s.putRecord key a with
  | .ok s => .ok s
  | .error e => .error (.store e)

/-- Write the state. -/
def setState (s : Store) (st : EmissionState) : Except MintError Store := put s stateKey st

/-- Accept what breaks no rule. -/
def checked (r : Except ParamsError Unit) : Except MintError Unit :=
  match r with
  | .ok () => .ok ()
  | .error (.arithmetic e) => .error (.arithmetic e)
  | .error e => .error (.params e)

/-- Write valid parameters. -/
def setParams (s : Store) (p : Params) : Except MintError Store := do
  checked p.validate
  return (← put s paramsKey p).flush

/-- Write a valid genesis, parameters first; the store afterwards, and whether all was written. -/
def initGenesis (s : Store) (g : Genesis) : Store × Except MintError Unit :=
  match checked g.validate with
  | .error e => (s, .error e)
  | .ok () =>
    match put s paramsKey g.params with
    | .error e => (s, .error e)
    | .ok s =>
      match put s stateKey g.state with
      | .error e => (s, .error e)
      | .ok s => (s.flush, .ok ())

/-- The stored parameters and state. -/
def exportGenesis (s : Store) : Except MintError Genesis := do
  return ⟨← params s, ← state s⟩

/-! ## Blocks -/

/-- Mint one coin into the mint's module account, if there is anything to mint. -/
def mintTotal (l : Ledger) (denom : String) (total : Amount) : Except LedgerError Ledger :=
  if total.isZero then .ok l
  else match l.mint mintModule (.single denom total) with
    | (l, .ok ()) => .ok l
    | (_, .error e) => .error e

/-- The address of a recipient. -/
def resolve (l : Ledger) : Recipient → Except LedgerError Address
  | .account a => .ok a
  | .moduleAccount name => l.moduleAddress name

/-- Make a payment out of the mint's module account. -/
def pay (l : Ledger) (p : Payment) : Except LedgerError Ledger := do
  l.sendFromModule mintModule (← resolve l p.recipient) (.single p.amount.denom p.amount.amount)

/-- A view of the ledger in which the emission has been minted and paid. -/
def settle (l : Ledger) (denom : String) (e : Emission) : Except LedgerError Ledger := do
  e.payments.foldlM pay (← mintTotal l.fork denom e.total)

/-- Process a block: the emission, and the ledger and store with the emission settled and the
state written. -/
def endBlock (s : Store) (l : Ledger) (height : UInt64) :
    Except MintError (Emission × Store × Ledger) := do
  let p ← params s
  let st ← state s
  let e ← (processBlock height p st).mapError .arithmetic
  let view ← (settle l p.denom e).mapError .ledger
  let s ← setState s e.state
  return (e, s, view.commit)

/-- Process blocks in turn up to the first that fails; what came of those before it, the last
emission, and the error. -/
def endBlocks (s : Store) (l : Ledger) : List UInt64 → Option Emission →
    Store × Ledger × Except MintError (Option Emission)
  | [], last => (s, l, .ok last)
  | h :: rest, _ =>
    match endBlock s l h with
    | .ok (e, s, l) => endBlocks s l rest (some e)
    | .error e => (s, l, .error e)

end Keeper

end Tokenomics
