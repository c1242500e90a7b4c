import Tokenomics.Binary64.Reader
import Tokenomics.Datum.Basic
import Tokenomics.Text.CodePoint

/-!
# Values of YAML scalars

What a scalar without quotes stands for depends on how it looks, or on its tag if that is one of
the core tags. Scalars in quotes and blocks are texts whatever their tag says.
-/

namespace Tokenomics.Yaml

/-- The natural number in a run of digits of a base, which is not empty. -/
def naturalIn? (base : Nat) (digits : List Char) : Option Nat :=
  if digits.isEmpty then none else Text.valueIn? base digits

/-- The whole number of 64 bits in the digits of a base behind an optional sign. -/
def integerIn? (base : Nat) (cs : List Char) : Option Int :=
  match cs with
  | '-' :: digits => do
    let n ← naturalIn? base digits
    if n ≤ 1 <<< 63 then return -(n : Int) else none
  | '+' :: digits => ((naturalIn? base digits).filter (· < 1 <<< 63)).map (↑·)
  | digits => ((naturalIn? base digits).filter (· < 1 <<< 63)).map (↑·)

/-- The words for numbers that are infinite or none at all. -/
def realWords : List String :=
  [".inf", ".Inf", ".INF", "+.inf", "+.Inf", "+.INF", "-.inf", "-.Inf", "-.INF", ".nan", ".NaN",
    ".NAN"]

/-- The floating point number that a text stands for. The words for numbers are accepted, but have
no value here. -/
def real? (s : String) : Option Datum :=
  if realWords.contains s then some .unreadable
  else (Binary64.ofChars? s.toList).map .real

/-- The whole number in a text that may begin with a mark for its base or a further plus sign. -/
def integer? (s : String) : Option Int :=
  let cs := s.toList
  let marked := match cs with
    | '0' :: 'x' :: rest => integerIn? 16 rest
    | '0' :: 'o' :: rest => integerIn? 8 rest
    | '+' :: rest => integerIn? 10 rest
    | _ => none
  marked.or (integerIn? 10 cs)

/-- The value of a scalar without quotes and core tag. -/
def valueOf (s : String) : Datum :=
  if s = "~" || s = "null" then .null
  else if s = "true" then .bool true
  else if s = "false" then .bool false
  else ((integer? s).map Datum.integer).or (real? s) |>.getD (.text s)

/-- A tag, its handle replaced by the beginning of tags that it stands for. -/
structure Tag where
  start : String
  suffix : String

/-- How the core tags begin. -/
def coreStart : String := "tag:yaml.org,2002:"

/-- The value of a scalar without quotes; none when it is not of the form that its tag demands. -/
def taggedValue? (tag : Option Tag) (s : String) : Option Datum :=
  match tag with
  | none => some (valueOf s)
  | some t =>
    if t.start ≠ coreStart then some (.text s)
    else match t.suffix with
      | "bool" => if s = "true" then some (.bool true) else if s = "false" then some (.bool false)
        else none
      | "int" => (integerIn? 10 s.toList).map .integer
      | "float" => real? s
      | "null" => if s = "~" || s = "null" then some .null else none
      | _ => some (.text s)

end Tokenomics.Yaml
