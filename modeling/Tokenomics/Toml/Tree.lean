import Tokenomics.Datum.Basic

/-!
# Tables under construction

A TOML document names its tables piece by piece. While it is read, every table remembers how it
came about: by its own header, only on the way to another header, or by a dotted key. That decides
what may still be added to it. Values are closed; an array of tables takes new entries only through
headers.
-/

namespace Tokenomics.Toml

/-- How a table came about. -/
inductive Origin where
  /-- By a header of its own, or as the document itself. -/
  | header
  /-- On the way to a header. -/
  | implicit
  /-- By a dotted key. -/
  | dotted
deriving DecidableEq

/-- What stands under a key. -/
inductive Node where
  | value (d : Datum)
  | table (origin : Origin) (entries : List (String × Node))
  /-- An array of tables, the last one first. -/
  | tables (items : List (List (String × Node)))
deriving Inhabited

/-- The entries of a table. -/
abbrev Entries := List (String × Node)

mutual

/-- The data of a node. -/
def Node.datum : Node → Datum
  | .value d => d
  | .table _ entries => .record (entriesData entries)
  | .tables items => .openList (itemsData items).reverse

/-- The data of the entries of a table. -/
def entriesData : List (String × Node) → List (String × Datum)
  | [] => []
  | (k, n) :: rest => (k, n.datum) :: entriesData rest

/-- The data of the tables of an array. -/
def itemsData : List (List (String × Node)) → List Datum
  | [] => []
  | entries :: rest => .record (entriesData entries) :: itemsData rest

end

namespace Entries

/-- The node under a key. -/
def get? (es : Entries) (key : String) : Option Node := (es.find? (·.1 == key)).map (·.2)

/-- The entries with a node under a key, in place of what was there or at the end. -/
def set (es : Entries) (key : String) (n : Node) : Entries :=
  if es.any (·.1 == key) then es.map fun e ↦ if e.1 == key then (key, n) else e
  else es ++ [(key, n)]

/-- Change the table that a header's path leads to; of an array of tables the last one. -/
def updateAt (es : Entries) (f : Entries → Option Entries) : List String → Option Entries
  | [] => f es
  | key :: path =>
    match es.get? key with
    | none => (updateAt [] f path).map fun inner ↦ es.set key (.table .implicit inner)
    | some (.table origin inner) =>
      (updateAt inner f path).map fun inner ↦ es.set key (.table origin inner)
    | some (.tables (last :: others)) =>
      (updateAt last f path).map fun last ↦ es.set key (.tables (last :: others))
    | some _ => none

/-- Add a value under a dotted key. The table that takes the value must have come about by dotted
keys, unless it is the one that the key starts from; a table on the way may also have come about on
the way to a header, or be the last one of an array. -/
def insertDotted (es : Entries) (d : Datum) : List String → Option Entries
  | [] => none
  | [key] => if (es.get? key).isSome then none else some (es.set key (.value d))
  | key :: path =>
    match es.get? key with
    | none => (insertDotted [] d path).map fun inner ↦ es.set key (.table .dotted inner)
    | some (.table origin inner) =>
      if origin = .dotted || (origin = .implicit && 1 < path.length) then
        (insertDotted inner d path).map fun inner ↦ es.set key (.table origin inner)
      else none
    | some (.tables (last :: others)) =>
      if 1 < path.length then
        (insertDotted last d path).map fun last ↦ es.set key (.tables (last :: others))
      else none
    | some _ => none

/-- Open the table of a header, which may exist already on the way to another header. -/
def openTable (es : Entries) (key : String) : Option Entries :=
  match es.get? key with
  | none => some (es.set key (.table .header []))
  | some (.table .implicit inner) => some (es.set key (.table .header inner))
  | some _ => none

/-- Open one more table of an array of tables. -/
def openItem (es : Entries) (key : String) : Option Entries :=
  match es.get? key with
  | none => some (es.set key (.tables [[]]))
  | some (.tables items) => some (es.set key (.tables ([] :: items)))
  | some _ => none

end Entries

end Tokenomics.Toml
