import Tokenomics.Files.Tree
import Tokenomics.Ini
import Tokenomics.Json.Reader
import Tokenomics.Json5.Reader
import Tokenomics.Ron.Reader
import Tokenomics.Toml.Reader
import Tokenomics.Yaml.Reader

/-!
# Configuration files

The formats of configuration files are told apart by the extension. A path may also lead to
something that is no file; then a file of that name with one of the extensions is looked for.
-/

namespace Tokenomics.ConfigurationFile

/-! ## Formats -/

mutual

/-- The data with only the last of the fields of one name in every record. -/
def withoutRepeats : Datum → Datum
  | .list items => .list (itemsWithoutRepeats items)
  | .record fields => .record (fieldsWithoutRepeats fields)
  | d => d

/-- The items, each without repeated fields. -/
def itemsWithoutRepeats : List Datum → List Datum
  | [] => []
  | d :: rest => withoutRepeats d :: itemsWithoutRepeats rest

/-- The last of the fields of each name. -/
def fieldsWithoutRepeats : List (String × Datum) → List (String × Datum)
  | [] => []
  | (k, d) :: rest =>
    let later := fieldsWithoutRepeats rest
    if later.any (·.1 == k) then later else (k, withoutRepeats d) :: later

end

/-- The data of a JSON text, which must be readable throughout. -/
def ofJson? (content : String) : Option Datum := do
  let d ← Json.parse? content
  if d.isReadable && d.depth ≤ Datum.nestingLimit then some d else none

/-- How to read the files of each extension. -/
def formats : List (String × (String → Option Datum)) :=
  [("toml", Toml.parse?), ("json", ofJson?), ("yaml", Yaml.parse?), ("yml", Yaml.parse?),
    ("ini", Ini.parse?), ("ron", Ron.parse?), ("json5", Json5.parse?)]

/-- The text without a byte order mark. -/
def withoutMark (content : String) : String :=
  match content.toList with
  | '\ufeff' :: rest => String.ofList rest
  | _ => content

/-- The fields of a table in a format. -/
def fields? (read : String → Option Datum) (content : Option String) :
    Option (List (String × Datum)) :=
  match content.bind fun s ↦ read (withoutMark s) with
  | some (.record fields) => some (fieldsWithoutRepeats fields)
  | _ => none

/-! ## Finding the file -/

/-- The fields of the file at a path whose extension is that of a format. -/
def namedFields? (path : String) (content : Option String) : Option (List (String × Datum)) := do
  let ext ← Path.extension? path
  let (_, read) ← formats.find? (·.1 == ext)
  fields? read content

/-- How to read the file of a path's name with an extension, and its text, if there is one. -/
def beside? (t : FileTree) (path : String) (format : String × (String → Option Datum)) :
    Option ((String → Option Datum) × Option String) := do
  let .file content ← t.find? (← Path.extended? path format.1) | none
  return (format.2, content)

/-- The paths of the files that are looked for when a path leads to no file. -/
def pathsBeside (path : String) : List String := formats.filterMap (Path.extended? path ·.1)

/-- The fields of a configuration, the path leading to an entry. -/
def entryFields? (t : FileTree) (path : String) (e : Entry) : Option (List (String × Datum)) :=
  match e with
  | .file content => namedFields? path content
  | _ => do
    let (read, content) ← formats.findSome? (beside? t path)
    fields? read content

end Tokenomics.ConfigurationFile
