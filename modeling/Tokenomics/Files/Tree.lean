import Tokenomics.Files.Path

/-!
# Trees of files

Files and directories as far as they are known, seen from the working directory. A path is followed
part by part, and every part, an empty one too, has to be looked up in a directory that is there:
behind a file even `/.` and `/..` lead nowhere. `FileTree.find?` tells what is at the end of a path;
`FileTree.makeDirectories` creates the directories that are missing on it.
-/

namespace Tokenomics

/-- What stands at a place. -/
inductive Entry where
  | directory
  /-- A file with its text; none when its bytes are no text. -/
  | file (content : Option String)
  /-- Something that is neither file nor directory but can be read. -/
  | device (content : String)
deriving DecidableEq, Inhabited

/-- The text that can be read from an entry. -/
def Entry.content? : Entry → Option String
  | .directory => none
  | .file content => content
  | .device content => some content

/-- Where the names of a place start. -/
inductive Base where
  /-- So many directories above the working directory. -/
  | above (levels : Nat)
  /-- The root of all directories. -/
  | root
deriving DecidableEq, Inhabited

/-- A place for an entry: where its names start, and the names from there, the last one first. -/
structure Place where
  base : Base
  names : List String
deriving DecidableEq, Inhabited

namespace Place

/-- Where a path starts. -/
def startOf (path : String) : Place := ⟨if Path.isAbsolute path then .root else .above 0, []⟩

/-- The directory around a place; around the root that is the root itself. -/
def parent : Place → Place
  | ⟨base, _ :: names⟩ => ⟨base, names⟩
  | ⟨.above n, []⟩ => ⟨.above (n + 1), []⟩
  | ⟨.root, []⟩ => ⟨.root, []⟩

/-- Where a part of a path leads from a directory. -/
def move (p : Place) (part : String) : Place :=
  if Path.isStay part then p
  else if part = ".." then p.parent
  else { p with names := part :: p.names }

/-- Whether a place lies somewhere inside another one. -/
def isInside (p q : Place) : Bool :=
  p.base = q.base && q.names.length < p.names.length && q.names.isSuffixOf p.names

/-- A path that leads to a place. -/
def path (p : Place) : String :=
  let start := match p.base with
    | .above 0 => ["."]
    | .above n => List.replicate n ".."
    | .root => [""]
  Path.ofParts (start ++ p.names.reverse)

end Place

/-- The entries that are known, the latest first. -/
structure FileTree where
  entries : List (Place × Entry)
deriving Inhabited

namespace FileTree

/-- The tree in which nothing is known but the directories around the working directory. -/
def empty : FileTree := ⟨[]⟩

/-- What stands at a place. The places where names start, and those with something inside, are
directories. -/
def at? (t : FileTree) (p : Place) : Option Entry :=
  match t.entries.find? (·.1 = p) with
  | some (_, e) => some e
  | none => if p.names.isEmpty || t.entries.any (·.1.isInside p) then some .directory else none

/-- The tree with an entry at a place. -/
def put (t : FileTree) (p : Place) (e : Entry) : FileTree :=
  ⟨(p, e) :: t.entries.filter (·.1 ≠ p)⟩

/-- Where a part of a path leads, if it starts from a directory that is there. -/
def follow? (t : FileTree) (p : Place) (part : String) : Option Place :=
  if t.at? p = some .directory then some (p.move part) else none

/-- Where a path leads, if there is a directory at each of its parts but the last. -/
def place? (t : FileTree) (path : String) : Option Place :=
  (Path.parts path).foldlM t.follow? (.startOf path)

/-- What stands at the end of a path. -/
def find? (t : FileTree) (path : String) : Option Entry :=
  if path = "" then none else (t.place? path).bind t.at?

/-- The text that can be read at the end of a path. -/
def read? (t : FileTree) (path : String) : Option String := (t.find? path).bind Entry.content?

/-- Follow parts of a path from a directory and create the directories that are missing: the tree
afterwards, and where the path leads unless a file is in the way. -/
def enter (t : FileTree) (p : Place) : List String → FileTree × Option Place
  | [] => (t, some p)
  | part :: rest =>
    let q := p.move part
    match t.at? q with
    | some .directory => t.enter q rest
    | some _ => (t, none)
    | none => (t.put q .directory).enter q rest

/-- Make sure that there is a directory at the end of a path. -/
def makeDirectories (t : FileTree) (path : String) : FileTree × Option Place :=
  t.enter (.startOf path) (Path.parts path)

/-- The tree with a file at the end of a path, as far as the path leads anywhere. -/
def putFile (t : FileTree) (path content : String) : FileTree :=
  t.put ((Path.parts path).foldl Place.move (.startOf path)) (.file (some content))

end FileTree

end Tokenomics
