import Tokenomics.Json.Printer
import Tokenomics.Json.Reader
import Tokenomics.Mint.Emission

/-!
# The genesis of the mint

The parameters and the state that a chain starts from, or continues from after an export.
-/

namespace Tokenomics

/-- Parameters and state to start from. -/
structure Genesis where
  params : Params
  state : EmissionState
deriving DecidableEq, Inhabited

instance : Codec Genesis where
  encode g := .record [("params", Codec.encode g.params), ("state", Codec.encode g.state)]
  decode? d := do
    let [some params, some state] ← d.fields? ["params", "state"] | none
    return ⟨← Codec.decode? params, ← Codec.decode? state⟩

namespace Genesis

/-- The genesis of a chain with standard parameters. -/
def standard : Genesis := ⟨.standard, .genesis .standard .standard⟩

/-- Accept a genesis that breaks no rule, or give the first one broken. -/
def validate (g : Genesis) : Except ParamsError Unit := do
  g.params.validate
  if g.state.provisions < .zero then throw (.negativeBlockProvisions g.state.provisions)
  checkPrecision g.state.provisions
  g.state.cursor.validate

/-- The genesis that a JSON text stands for. -/
def ofJson? (s : String) : Option Genesis := Json.decode? s

/-- The genesis as a JSON text for reading. -/
def toJson (g : Genesis) : String := Json.pretty (Codec.encode g)

end Genesis

end Tokenomics
