import Tokenomics.Binary64.Approximate
import Tokenomics.Binary64.Text
import Tokenomics.Datum.Basic
import Tokenomics.Text.LowerCase

/-!
# Configuration tables

Settings come from a file and from the environment, laid over each other as one table of data.
Keys do not depend on case, and those of the outermost table may be paths into tables. Scalars are
read leniently: numbers and truth values may be texts, texts may be numbers, and floating point
numbers are rounded to whole ones.
-/

namespace Tokenomics.Configuration

/-- The table with a value under a key, in place of what was there. -/
def replace (table : List (String × Datum)) (key : String) (d : Datum) : List (String × Datum) :=
  table.filter (·.1 != key) ++ [(key, d)]

/-- What a table has under a key. -/
def entry? (table : List (String × Datum)) (key : String) : Option Datum :=
  (table.find? (·.1 == key)).map (·.2)

/-- The entries of a table under a key; none when it is no table. -/
def tableAt (table : List (String × Datum)) (key : String) : List (String × Datum) :=
  match entry? table key with
  | some (.record fields) => fields
  | _ => []

mutual

/-- Lay a value over what a table has under a key; tables are merged. -/
def assign (table : List (String × Datum)) (key : String) : Datum → List (String × Datum)
  | .record fields =>
    let key := Text.lowerCase key
    replace table key (.record (assignAll (tableAt table key) fields))
  | d => replace table (Text.lowerCase key) d

/-- Lay all fields over a table. -/
def assignAll (table : List (String × Datum)) : List (String × Datum) → List (String × Datum)
  | [] => table
  | (k, d) :: rest => assignAll (assign table k d) rest

end

/-! ## Keys as paths -/

/-- Whether a character may stand in a name on a path. -/
def isNameChar (c : Char) : Bool := c.isAlphanum || c = ' ' || c = '_' || c = '-'

/-- Where a key leads: the names up to a subscript, and whether a subscript follows. -/
structure KeyPath where
  names : List String
  isListed : Bool

/-- The rest after blanks inside a line. -/
def skipSpaces (cs : List Char) : List Char := cs.dropWhile fun c ↦ c = ' ' || c = '\t'

/-- The rest after the number and the bracket of a subscript. The number has 64 bits and a sign. -/
def afterSubscript? (cs : List Char) : Option (List Char) :=
  let (bound, digits) := match skipSpaces cs with
    | '-' :: rest => (1 <<< 63 + 1, rest)
    | rest => (1 <<< 63, rest)
  match (Numeral.natural? (digits.takeWhile Char.isDigit)).filter (· < bound),
      skipSpaces (digits.dropWhile Char.isDigit) with
  | some _, ']' :: rest => some rest
  | _, _ => none

/-- What follows a name of a path: further names and subscripts, at most `fuel` of them. -/
def readSteps : Nat → List Char → Option KeyPath
  | _, [] => some ⟨[], false⟩
  | fuel + 1, '.' :: rest => do
    let name := rest.takeWhile isNameChar
    let steps ← readSteps fuel (rest.dropWhile isNameChar)
    if name.isEmpty then none
    else return { steps with names := String.ofList name :: steps.names }
  | fuel + 1, '[' :: rest => do
    let _ ← readSteps fuel (← afterSubscript? rest)
    return ⟨[], true⟩
  | _, _ => none

/-- Where a key leads; one that is no path is a name as a whole. -/
def pathOf (key : String) : KeyPath :=
  let cs := key.toList
  let name := cs.takeWhile isNameChar
  match readSteps cs.length (cs.dropWhile isNameChar) with
  | some steps =>
    if name.isEmpty then ⟨[key], false⟩
    else { steps with names := String.ofList name :: steps.names }
  | none => ⟨[key], false⟩

/-- Lay a value over what a table has at the end of a path. -/
def assignAt (table : List (String × Datum)) (d : Datum) : List String → List (String × Datum)
  | [] => table
  | [key] => assign table key d
  | key :: path =>
    let key := Text.lowerCase key
    replace table key (.record (assignAt (tableAt table key) d path))

/-- Lay the fields of a source over a table, their names taken as paths. A subscript makes a list
of what it stands behind, and as no setting is a list, its items do not count. -/
def overlay (table fields : List (String × Datum)) : List (String × Datum) :=
  fields.foldl (fun t (key, d) ↦
    let path := pathOf key
    assignAt t (if path.isListed then .list [] else d) path.names) table

/-! ## The environment -/

/-- The names of the environment's variables that are settings begin with this, in any case. -/
def variablePrefix : String := "furya_"

/-- The setting in a variable of the environment, if it is one. -/
def variableField? (name value : String) : Option (String × Datum) :=
  let cs := name.toList
  let n := variablePrefix.length
  if Text.lowerCase (String.ofList (cs.take n)) = variablePrefix then
    some (Text.lowerCase (String.ofList (cs.drop n)), .text value)
  else none

/-! ## Lenient scalars -/

/-- The word of 64 bits that a text stands for: a numeral or a word of agreement or refusal. -/
def wordOfText? (s : String) : Option UInt64 :=
  match Text.lowerCase s with
  | "true" | "on" | "yes" => some 1
  | "false" | "off" | "no" => some 0
  | _ => (Numeral.unsigned? (1 <<< 64) s.toList).map UInt64.ofNat

/-- A whole number as a floating point number. -/
def realOfInteger (n : Int) : Binary64 :=
  if n.natAbs < 1 <<< 64 then .nearest (n < 0) n.natAbs 1
  else (Binary64.approximate? (n < 0) (Numeral.digits n.natAbs) [] 0).getD (.infinite (n < 0))

/-- The word of 64 bits that data stand for. A whole number beyond the signed words counts as a
floating point number. -/
def asWord? : Datum → Option UInt64
  | .integer n =>
    if n < 0 then
      if -Datum.signedBound ≤ n then none else some 0
    else if n < Datum.signedBound then some (UInt64.ofNat n.toNat)
    else some (UInt64.ofNat ((realOfInteger n).toNatWithin (1 <<< 64 - 1)))
  | .real x => some (UInt64.ofNat (x.toNatWithin (1 <<< 64 - 1)))
  | .text s | .date s => wordOfText? s
  | .bool b => some (if b then 1 else 0)
  | _ => none

/-- The text that data stand for. -/
def asText? : Datum → Option String
  | .text s | .date s => some s
  | .bool b => some (if b then "true" else "false")
  | .integer n =>
    if -Datum.signedBound ≤ n && n < Datum.signedBound then some (toString n)
    else some (realOfInteger n).text
  | .real x => some x.text
  | _ => none

end Tokenomics.Configuration
