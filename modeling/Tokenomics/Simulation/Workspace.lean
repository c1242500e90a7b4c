import Tokenomics.Simulation.CommandLine
import Tokenomics.Simulation.Run
import Tokenomics.Toml.Printer

/-!
# Workspaces

The files and stores that commands work on. Only stores change: a run leaves its records in the
store that its settings name, even when it fails.
-/

namespace Tokenomics

/-- Files, and the stores in some of the directories. -/
structure Workspace where
  files : FileTree
  stores : List (Place × Store)
deriving Inhabited

/-- Why a command failed. -/
inductive Failure where
  | usage
  | load (cause : LoadError)
  | settings (cause : SettingsError)
  | run (cause : RunError)
deriving DecidableEq, Inhabited

namespace Workspace

/-- What is known around a working directory of its own: the directories of a usual system, and the
device from which nothing can be read. -/
def surroundings : FileTree :=
  let directories := ["bin", "boot", "dev", "etc", "home", "lib", "mnt", "opt", "proc", "root",
    "run", "sbin", "srv", "sys", "tmp", "usr", "var"]
  ⟨(⟨.root, ["null", "dev"]⟩, .device "")
    :: directories.map fun name ↦ (⟨.root, [name]⟩, .directory)⟩

/-- A workspace with files at paths and without stores. -/
def ofFiles (files : List (String × String)) : Workspace :=
  ⟨files.foldl (fun t (path, content) ↦ t.putFile path content) surroundings, []⟩

/-- The store in the directory at a place. -/
def storeAt? (w : Workspace) (p : Place) : Option Store :=
  (w.stores.find? (·.1 = p)).map (·.2)

/-- Where a store keeps what it needs in order to be opened again. -/
def storeSettings (p : Place) : Place := p.move "conf"

/-- Where a store keeps its values. -/
def storeValues (p : Place) : Place := p.move "db"

/-- Where a store keeps very long values. -/
def storeLongValues (p : Place) : Place := p.move "blobs"

/-- Whether a place is free for a store. -/
def isFree (w : Workspace) (p : Place) : Bool :=
  (w.files.at? (storeSettings p)).isNone && w.files.at? (storeValues p) ≠ some .directory

/-- Open the store at a path, creating directories on the way to it: the workspace afterwards, and
the place and the store, which is empty when there was none yet. There is no store where a file is
in the way. -/
def openStore (w : Workspace) (path : String) : Workspace × Option (Place × Store) :=
  match w.files.makeDirectories path with
  | (files, none) => (⟨files, w.stores⟩, none)
  | (files, some p) =>
    let w := ⟨files, w.stores⟩
    match w.storeAt? p with
    | some s => (w, some (p, s))
    | none => (w, if w.isFree p then some (p, .empty) else none)

/-- The workspace with a store in the directory at a place. -/
def setStore (w : Workspace) (p : Place) (s : Store) : Workspace where
  files := ((w.files.put (storeSettings p) (.file none)).put (storeValues p) (.file none)).put
    (storeLongValues p) .directory
  stores := (p, s) :: w.stores.filter (·.1 ≠ p)

/-- The settings of a run. -/
def settings (w : Workspace) (environment : List (String × String)) (config : Option String)
    (flags : List (String × String)) : Except Failure Settings := do
  let s ← (Settings.load w.files config environment).mapError .load
  let s := CommandLine.apply flags s
  s.validate.mapError .settings
  return s

/-- Run a simulation; the workspace afterwards, and the report. -/
def simulate (w : Workspace) (s : Settings) : Workspace × Except RunError Report :=
  match Simulation.genesis s w.files.read? with
  | .error e => (w, .error e)
  | .ok g =>
    match s.storePath with
    | none => (w, (Simulation.simulate .empty g s).2)
    | some path =>
      match w.openStore path with
      | (w, none) => (w, .error (.unopenedStore path))
      | (w, some (p, store)) =>
        match Simulation.simulate store g s with
        | (store, r) => (w.setStore p store, r)

/-- The standard genesis in a format. -/
def standardGenesis : GenesisFormat → String
  | .json => Genesis.standard.toJson
  | .toml => Toml.render (Codec.encode Genesis.standard)

/-- What a command prints, without the last line end; the workspace afterwards comes with it. -/
def execute (w : Workspace) (environment : List (String × String)) (args : List String) :
    Workspace × Except Failure String :=
  match CommandLine.parse? args with
  | none => (w, .error .usage)
  | some (.standardGenesis format) => (w, .ok (standardGenesis format))
  | some (.run config flags) =>
    match w.settings environment config flags with
    | .error e => (w, .error e)
    | .ok s =>
      match w.simulate s with
      | (w, .ok r) => (w, .ok (Json.pretty r.datum))
      | (w, .error e) => (w, .error (.run e))

end Workspace

namespace Failure

/-- The wording of a failure. -/
def message : Failure → String
  | .usage => "usage: [--config FILE] run [FLAGS], or default-genesis [--format json|toml]"
  | .load e => e.message?.getD "unreadable configuration file"
  | .settings e => e.message
  | .run e => e.message

/-- The exit code of a failure. -/
def exitCode : Failure → Nat
  | .usage => 2
  | .load _ | .settings _ | .run _ => 1

end Failure

end Tokenomics
