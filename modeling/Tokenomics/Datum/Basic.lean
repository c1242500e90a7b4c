import Tokenomics.Binary64.Basic

/-!
# Data

The common form of what is read from and written to data texts: scalars, lists, and records of
named fields in a given order, possibly with repeated names. Whole numbers are exact and
unbounded; `unreadable` stands for a scalar that is well formed in its text but has no value here,
such as a number beyond all floating point numbers. It may be passed over but not read.
-/

namespace Tokenomics

/-- A value of a data text. -/
inductive Datum where
  | null
  | bool (value : Bool)
  | integer (value : Int)
  | real (value : Binary64)
  | text (value : String)
  /-- A date, a time of day or both, as its standard text. -/
  | date (standard : String)
  | list (items : List Datum)
  /-- A list that may go on after the items that are read from it. -/
  | openList (items : List Datum)
  | record (fields : List (String × Datum))
  | unreadable
deriving Inhabited

namespace Datum

/-- A natural number. -/
def nat (n : Nat) : Datum := .integer n

/-- A list, its items written by `f`. -/
def listOf {α : Type} (f : α → Datum) (l : List α) : Datum := .list (l.map f)

/-- One more than the greatest signed word of 64 bits. -/
def signedBound : Int := 9223372036854775808

/-- How deeply data may nest in all where they are kept as they are. -/
def nestingLimit : Nat := 127

/-- A value that may be missing, written as null when it is. -/
def optional {α : Type} (f : α → Datum) : Option α → Datum
  | none => .null
  | some a => f a

/-! ## Size -/

mutual

/-- How many lists and records stand inside each other at most. -/
def depth : Datum → Nat
  | .list items | .openList items => itemsDepth items + 1
  | .record fields => fieldsDepth fields + 1
  | _ => 0

/-- The greatest depth in a list. -/
def itemsDepth : List Datum → Nat
  | [] => 0
  | d :: rest => max d.depth (itemsDepth rest)

/-- The greatest depth in a list of fields. -/
def fieldsDepth : List (String × Datum) → Nat
  | [] => 0
  | (_, d) :: rest => max d.depth (fieldsDepth rest)

end

mutual

/-- Whether every scalar of the value has a value. -/
def isReadable : Datum → Bool
  | .unreadable => false
  | .list items | .openList items => itemsReadable items
  | .record fields => fieldsReadable fields
  | _ => true

/-- Whether every item is readable. -/
def itemsReadable : List Datum → Bool
  | [] => true
  | d :: rest => d.isReadable && itemsReadable rest

/-- Whether every field is readable. -/
def fieldsReadable : List (String × Datum) → Bool
  | [] => true
  | (_, d) :: rest => d.isReadable && fieldsReadable rest

end

/-! ## Reading scalars and lists -/

/-- The text, if the value is one. -/
def asText? : Datum → Option String
  | .text s => some s
  | _ => none

/-- The natural number below `bound`, if the value is one. -/
def asNat? (bound : Nat) : Datum → Option Nat
  | .integer n => if 0 ≤ n && n < bound then some n.toNat else none
  | _ => none

/-- The truth value, if the value is one. -/
def asBool? : Datum → Option Bool
  | .bool b => some b
  | _ => none

/-- The items read by `f`, if the value is a list and every item can be read. -/
def asListOf? {α : Type} (f : Datum → Option α) : Datum → Option (List α)
  | .list items | .openList items => items.mapM f
  | _ => none

/-- A value read by `f`, null and a missing one standing for none. -/
def asOptional? {α : Type} (f : Datum → Option α) : Option Datum → Option (Option α)
  | none | some .null => some none
  | some d => (f d).map some

/-! ## Reading records -/

/-- The values of the fields called `name`, in order. -/
def valuesOf (fields : List (String × Datum)) (name : String) : List Datum :=
  (fields.filter (·.1 == name)).map (·.2)

/-- The value of the field called `name`, `some none` when there is no such field; none when there
are several. -/
def fieldOf? (fields : List (String × Datum)) (name : String) : Option (Option Datum) :=
  match valuesOf fields name with
  | [] => some none
  | [d] => some (some d)
  | _ => none

/-- The values of the fields `names`, each one possibly missing. Fields of other names are passed
over, a repeated one of these is refused. A list of as many items as there are names, or the front
of an open list, stands for the fields in that order. -/
def fields? (names : List String) : Datum → Option (List (Option Datum))
  | .record fields => names.mapM (fieldOf? fields)
  | .list items => if items.length = names.length then some (items.map some) else none
  | .openList items =>
    if items.length < names.length then none else some ((items.take names.length).map some)
  | _ => none

end Datum

/-- A type whose values are written as data and read from data. -/
class Codec (α : Type) where
  /-- The value as data. -/
  encode : α → Datum
  /-- The value that some data stand for, if any. -/
  decode? : Datum → Option α

instance : Codec UInt64 where
  encode n := .nat n.toNat
  decode? d := (d.asNat? (1 <<< 64)).map UInt64.ofNat

instance : Codec String where
  encode := .text
  decode? := Datum.asText?

end Tokenomics
