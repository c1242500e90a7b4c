import Tokenomics.Mint.Params
import Tokenomics.Simulation.Configuration
import Tokenomics.Simulation.ConfigurationFile

/-!
# Settings of a simulation

What a simulation runs over and what it starts from. A configuration file is overridden by the
environment, and both by flags.
-/

namespace Tokenomics

/-- The settings of a simulation. -/
structure Settings where
  /-- A genesis to start from instead of the standard one. -/
  genesisPath : Option String
  /-- A vesting table in place of the receivers of the genesis. -/
  vestingTable : Option String
  /-- Who is meant by the aliases of the vesting table. -/
  aliases : SortedMap String Address
  /-- Where the records are kept between runs. -/
  storePath : Option String
  startHeight : UInt64
  endHeight : UInt64
  /-- The length of a month in place of that of the genesis. -/
  monthPeriod : Option UInt64
  logLevel : String
  logFormat : String
deriving DecidableEq, Inhabited

/-- Why settings could not be loaded. -/
inductive LoadError where
  | fileNotFound (path : String)
  /-- Something is there but no configuration. -/
  | unreadableFile
  | invalidConfiguration
deriving DecidableEq, Inhabited

/-- The wording of a load error; none where there are only details. -/
def LoadError.message? : LoadError → Option String
  | .fileNotFound path =>
    some ("Configuration file " ++ path ++ " not found (specified via --config)")
  | .unreadableFile => none
  | .invalidConfiguration => some "invalid simulation configuration"

/-- Why settings make no sense. -/
inductive SettingsError where
  | zeroStart
  | endBelowStart (start stop : UInt64)
  | unknownLogFormat (format : String)
deriving DecidableEq, Inhabited

/-- The wording of a settings error. -/
def SettingsError.message : SettingsError → String
  | .zeroStart => "start_height must be at least 1"
  | .endBelowStart start stop =>
    "end_height (" ++ toString stop.toNat ++ ") is below start_height (" ++ toString start.toNat
      ++ ")"
  | .unknownLogFormat format => "log_format must be 'pretty' or 'json', got '" ++ format ++ "'"

namespace Settings

/-- The settings where nothing is said. -/
def standard : Settings := ⟨none, none, ∅, none, 1, 10000, none, "info", "pretty"⟩

/-- The address that lenient text stands for. -/
def asAddress? (d : Datum) : Option Address := (Configuration.asText? d).bind Address.ofText?

/-- The aliases in a table. -/
def asAliases? : Datum → Option (SortedMap String Address)
  | .record fields =>
    (fields.mapM fun (e : String × Datum) ↦ (asAddress? e.2).map (e.1, ·)).map SortedMap.ofList
  | _ => none

/-- The value under a key, or what stands in for it when there is none. -/
def readField? {α : Type} (table : List (String × Datum)) (key : String) (standard : α)
    (read : Datum → Option α) : Option α :=
  match Configuration.entry? table key with
  | none => some standard
  | some d => read d

/-- A value that may be null. -/
def orNull? {α : Type} (read : Datum → Option α) : Datum → Option (Option α)
  | .null => some none
  | d => (read d).map some

/-- The names of the settings. -/
def names : List String :=
  ["genesis_path", "vesting_csv", "vesting_aliases", "store_path", "start_height", "end_height",
    "one_month_period_in_blocks", "log_level", "log_format"]

/-- The settings in a table. -/
def ofTable? (table : List (String × Datum)) : Option Settings := do
  let text := Configuration.asText?
  let word := Configuration.asWord?
  let s := standard
  return ⟨← readField? table "genesis_path" s.genesisPath (orNull? text),
    ← readField? table "vesting_csv" s.vestingTable (orNull? text),
    ← readField? table "vesting_aliases" s.aliases asAliases?,
    ← readField? table "store_path" s.storePath (orNull? text),
    ← readField? table "start_height" s.startHeight word,
    ← readField? table "end_height" s.endHeight word,
    ← readField? table "one_month_period_in_blocks" s.monthPeriod (orNull? word),
    ← readField? table "log_level" s.logLevel text,
    ← readField? table "log_format" s.logFormat text⟩

/-- The fields of a configuration file, if one is named. -/
def fileFields (files : FileTree) : Option String → Except LoadError (List (String × Datum))
  | none => return []
  | some path => do
    let some e := files.find? path | throw (.fileNotFound path)
    let some fields := ConfigurationFile.entryFields? files path e | throw .unreadableFile
    return fields

/-- The settings in a configuration file, if one is named, and in the environment. -/
def load (files : FileTree) (configPath : Option String) (environment : List (String × String)) :
    Except LoadError Settings := do
  let fromFile ← fileFields files configPath
  let fromEnvironment := environment.filterMap fun (k, v) ↦ Configuration.variableField? k v
  match ofTable? (Configuration.overlay (Configuration.overlay [] fromFile) fromEnvironment) with
  | some s => return s
  | none => throw .invalidConfiguration

/-- Accept settings that make sense, or say which do not. -/
def validate (s : Settings) : Except SettingsError Unit :=
  if s.startHeight = 0 then .error .zeroStart
  else if s.endHeight < s.startHeight then .error (.endBelowStart s.startHeight s.endHeight)
  else if s.logFormat ≠ "pretty" ∧ s.logFormat ≠ "json" then
    .error (.unknownLogFormat s.logFormat)
  else .ok ()

/-- The settings that only matter for a fresh genesis and are set. -/
def genesisOverrides (s : Settings) : List String :=
  (if s.genesisPath.isSome then ["genesis_path"] else [])
    ++ (if s.vestingTable.isSome then ["vesting_csv"] else [])
    ++ (if s.monthPeriod.isSome then ["one_month_period_in_blocks"] else [])

/-- All heights to run over. -/
def heights (s : Settings) : List UInt64 :=
  (List.range' s.startHeight.toNat (s.endHeight.toNat + 1 - s.startHeight.toNat)).map UInt64.ofNat

end Settings

end Tokenomics
