import Tokenomics.Simulation.Workspace
import Tokenomics.Store.Saved

/-!
# The program

Brings the files, the store and the variables of the environment that a command needs into a
workspace, executes the command there, saves the store, and prints what came of it.
-/

namespace Tokenomics

/-- Whether a path leads to anything. -/
def leadsSomewhere (path : String) : IO Bool := do
  try
    let _ ← IO.FS.realPath path
    return true
  catch _ => return false

/-- What stands at the end of a path. -/
def entryAt? (path : String) : IO (Option Entry) := do
  if ← leadsSomewhere (path ++ "/.") then return some .directory
  if !(← leadsSomewhere path) then return none
  let content ← try pure (String.fromUTF8? (← IO.FS.readBinFile path)) catch _ => pure none
  return some (.file content)

/-- The variables of the environment that settings may come from. -/
def environment : IO (List (String × String)) := do
  let names := Settings.names.map fun name ↦
    String.ofList ((Configuration.variablePrefix ++ name).toList.map Char.toUpper)
  names.filterMapM fun name ↦ return (← IO.getEnv name).map (name, ·)

namespace Workspace

/-- The tree with what stands at the end of a path that begins with `front`, and on the way there;
`p` is where `front` leads. -/
def bringFrom (t : FileTree) (p : Place) (front : List String) : List String → IO FileTree
  | [] => return t
  | part :: rest => do
    let front := front ++ [part]
    let q := p.move part
    match ← entryAt? (if front = [""] then "/" else Path.ofParts front) with
    | none => return t
    | some .directory => bringFrom (t.put q .directory) q front rest
    | some e => return t.put q e

/-- The workspace with what stands at the end of a path. -/
def bring (w : Workspace) (path : String) : IO Workspace := do
  return { w with files := ← bringFrom w.files (.startOf path) [] (Path.parts path) }

/-- The workspace with the store at a path, if there is one. -/
def bringStore (w : Workspace) (path : String) : IO Workspace := do
  let some p := (← w.bring path).files.place? path | w.bring path
  let w ← (← w.bring (storeSettings p).path).bring (storeValues p).path
  match (w.files.read? (storeValues p).path).bind Store.ofSaved? with
  | some s => return w.setStore p s
  | none => return w

/-- All that a command needs. -/
def gather (environment : List (String × String)) : Option Command → IO Workspace
  | some (.run config flags) => do
    let configs := config.toList.flatMap fun path ↦ path :: ConfigurationFile.pathsBeside path
    let w ← configs.foldlM bring ⟨.empty, []⟩
    match w.settings environment config flags with
    | .error _ => return w
    | .ok s =>
      let w ← (s.genesisPath.toList ++ s.vestingTable.toList).foldlM bring w
      s.storePath.toList.foldlM bringStore w
  | _ => return ⟨.empty, []⟩

/-- Save all stores. -/
def save (w : Workspace) : IO Unit :=
  w.stores.forM fun (p, s) ↦ do
    IO.FS.createDirAll (storeLongValues p).path
    IO.FS.writeFile (storeSettings p).path ""
    IO.FS.writeFile (storeValues p).path s.saved

end Workspace

end Tokenomics

open Tokenomics in
/-- Execute the command that the arguments ask for. -/
def main (args : List String) : IO UInt32 := do
  let environment ← Tokenomics.environment
  let w ← Workspace.gather environment (CommandLine.parse? args)
  let (w, result) := w.execute environment args
  w.save
  match result with
  | .ok text =>
    IO.println text
    return 0
  | .error e =>
    IO.eprintln e.message
    return UInt32.ofNat e.exitCode
