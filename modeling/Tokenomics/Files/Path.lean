import Tokenomics.Text.Blank

/-!
# Paths

Paths as texts: names with slashes between them. Nothing here asks what is there.
-/

namespace Tokenomics.Path

/-- The parts of a path between its slashes. -/
def parts (path : String) : List String :=
  (Text.splitChars '/' path.toList).map String.ofList

/-- The path of some parts. -/
def ofParts (parts : List String) : String :=
  String.ofList (Text.joinChars '/' (parts.map String.toList))

/-- Whether a path starts from the root of all directories. -/
def isAbsolute (path : String) : Bool := path.toList.head? = some '/'

/-- Whether a part of a path leads nowhere. -/
def isStay (part : String) : Bool := part = "" || part = "."

/-- What follows the last point of a path's last part, unless the part begins with it. -/
def extension? (path : String) : Option String :=
  let name := (path.toList.reverse.takeWhile (· ≠ '/')).reverse
  let ext := (name.reverse.takeWhile (· ≠ '.')).reverse
  if ext.length + 1 < name.length then some (String.ofList ext) else none

/-- The path with a point and an extension behind its last name; none when it ends in no name. -/
def extended? (path ext : String) : Option String :=
  match (parts path).reverse.dropWhile isStay with
  | [] | ".." :: _ => none
  | name :: front => some (ofParts ((name ++ "." ++ ext) :: front).reverse)

end Tokenomics.Path
