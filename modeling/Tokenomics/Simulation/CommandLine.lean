import Tokenomics.Simulation.Settings

/-!
# The command line

Two commands: one runs a simulation, its flags overriding the settings, and one prints the standard
genesis. A flag is two dashes and a name; its value is the next argument or follows an equals sign.
No flag may be given twice, but `--config` may stand before the command and after it, where the
later one counts.
-/

namespace Tokenomics

/-- In which form a genesis is printed. -/
inductive GenesisFormat where
  | json
  | toml
deriving DecidableEq, Inhabited

/-- What the command line asks for. -/
inductive Command where
  /-- Run with settings from a file, if one is given, changed as the flags say. -/
  | run (config : Option String) (flags : List (String × String))
  | standardGenesis (format : GenesisFormat)
deriving DecidableEq, Inhabited

namespace CommandLine

/-- The flags given, and what follows them. -/
structure Flags where
  given : List (String × String)
  rest : List String

/-- Whether an argument cannot be the value of a flag. -/
def looksLikeFlag (arg : String) : Bool := arg.toList.head? = some '-' && arg ≠ "-"

/-- The name of a flag, and the value behind an equals sign if there is one. -/
def splitFlag (arg : String) : String × Option String :=
  let cs := arg.toList.drop 2
  let name := String.ofList (cs.takeWhile (· ≠ '='))
  match cs.dropWhile (· ≠ '=') with
  | [] => (name, none)
  | _ :: value => (name, some (String.ofList value))

/-- Whether an argument begins with two dashes. -/
def isLongFlag (arg : String) : Bool := ['-', '-'].isPrefixOf arg.toList

/-- The flags among `known` at the front, up to the first argument that is none. -/
def readFlags (known : List String) (given : List (String × String)) :
    List String → Option Flags
  | [] => some ⟨given, []⟩
  | arg :: rest =>
    if arg = "--" then if rest.isEmpty then some ⟨given, []⟩ else none
    else if isLongFlag arg then
      match splitFlag arg with
      | (name, inline) =>
        if !known.contains name || given.any (·.1 == name) then none
        else match inline, rest with
          | some value, rest => readFlags known (given ++ [(name, value)]) rest
          | none, value :: rest =>
            if looksLikeFlag value then none
            else readFlags known (given ++ [(name, value)]) rest
          | none, [] => none
    else if looksLikeFlag arg then none
    else some ⟨given, arg :: rest⟩

/-- The value of a flag. -/
def valueOf (given : List (String × String)) (name : String) : Option String :=
  (given.find? (·.1 == name)).map (·.2)

/-- The word of 64 bits that the value of a flag stands for. -/
def word? (value : String) : Option UInt64 :=
  (Numeral.unsigned? (1 <<< 64) value.toList).map UInt64.ofNat

/-- The flags of a run that take a number. -/
def wordFlags : List String := ["from", "to", "month-period"]

/-- The flags of a run that take a path. -/
def pathFlags : List String := ["config", "genesis", "vesting-csv", "store"]

/-- The flags of a run that take any text. -/
def textFlags : List String := ["log-level", "log-format"]

/-- Whether the value of a flag is of the right kind. -/
def isValid (name value : String) : Bool :=
  if wordFlags.contains name then (word? value).isSome
  else if pathFlags.contains name then value ≠ ""
  else if name = "format" then value = "json" || value = "toml"
  else true

/-- The flags of a command, nothing else being left. -/
def commandFlags? (known args : List String) : Option (List (String × String)) := do
  let flags ← readFlags known [] args
  if flags.rest.isEmpty && flags.given.all fun (n, v) ↦ isValid n v then some flags.given else none

/-- The command that the arguments ask for, if they make sense. -/
def parse? (args : List String) : Option Command := do
  let front ← readFlags ["config"] [] args
  if !(front.given.all fun (n, v) ↦ isValid n v) then none
  else match front.rest with
    | "run" :: rest =>
      let given ← commandFlags? (wordFlags ++ pathFlags ++ textFlags) rest
      return .run ((valueOf given "config").or (valueOf front.given "config")) given
    | "default-genesis" :: rest =>
      let given ← commandFlags? ["config", "format"] rest
      return .standardGenesis (if valueOf given "format" = some "toml" then .toml else .json)
    | _ => none

/-- The settings changed as the flags of a run say. -/
def apply (given : List (String × String)) (s : Settings) : Settings :=
  let text (name : String) := valueOf given name
  let word (name : String) := (valueOf given name).bind word?
  { s with
    startHeight := (word "from").getD s.startHeight
    endHeight := (word "to").getD s.endHeight
    genesisPath := (text "genesis").or s.genesisPath
    vestingTable := (text "vesting-csv").or s.vestingTable
    storePath := (text "store").or s.storePath
    monthPeriod := (word "month-period").or s.monthPeriod
    logLevel := (text "log-level").getD s.logLevel
    logFormat := (text "log-format").getD s.logFormat }

end CommandLine

end Tokenomics
