import Tokenomics.Csv
import Tokenomics.Mint.Vesting
import Tokenomics.Text.Quoted

/-!
# Vesting tables as text

The monthly amounts of all developers as a comma separated table: the first row names the
developers by alias, and every row after it holds one month's amounts, one column to a developer.
Amounts are in whole tokens; they are turned into base units, and fractions of these are dropped.
-/

namespace Tokenomics

/-- Why a vesting table is refused. -/
inductive VestingError where
  /-- A row has more or fewer fields than the first. -/
  | raggedRow
  | unknownAlias (name : String)
  | invalidAmount (value : String) (month column : Nat)
  | amountOverflow (value : String) (month : Nat)
deriving DecidableEq, Inhabited

/-- The wording of a vesting error. The first one comes without details. -/
def VestingError.message : VestingError → String
  | .raggedRow => "vesting csv error"
  | .unknownAlias name => "unknown vesting recipient alias: " ++ name
  | .invalidAmount value month column =>
    "invalid vesting amount " ++ Text.quoted value ++ " in month " ++ toString month ++ ", column "
      ++ toString column
  | .amountOverflow value month =>
    "vesting amount " ++ Text.quoted value ++ " in month " ++ toString month
      ++ " does not fit the amount type"

namespace VestingTable

/-- How many base units a token has. -/
def unitsPerToken : Decimal := .ofNat 1000000

/-- The base units in a number of tokens, if a machine word holds them. -/
def units? (tokens : Decimal) : Option UInt64 := do
  let n ← (← tokens.mul? unitsPerToken).floor?
  if n < 1 <<< 64 then return UInt64.ofNat n else none

/-- The amount in a cell. -/
def readCell (month column : Nat) (value : String) : Except VestingError UInt64 :=
  match Decimal.ofText? value with
  | none => .error (.invalidAmount value month column)
  | some tokens =>
    if tokens < .zero then .error (.invalidAmount value month column)
    else match units? tokens with
      | none => .error (.amountOverflow value month)
      | some n => .ok n

/-- The amounts of a month. -/
def readRow (width month : Nat) (row : List String) : Except VestingError (List UInt64) :=
  if row.length ≠ width then .error .raggedRow
  else row.zipIdx.mapM fun (value, column) ↦ readCell month column value

/-- The address behind an alias. -/
def resolve (aliases : SortedMap String Address) (name : String) : Except VestingError Address :=
  match aliases.get? name with
  | some a => .ok a
  | none => .error (.unknownAlias name)

/-- The receivers of a table and their monthly amounts. -/
def parse (aliases : SortedMap String Address) (s : String) :
    Except VestingError (List Receiver) := do
  let header :: body := Csv.rows s | return []
  let addresses ← header.mapM (resolve aliases)
  let months ← body.zipIdx.mapM fun (row, i) ↦ readRow header.length (i + 1) row
  return addresses.zipIdx.map fun (a, column) ↦ ⟨a, months.map fun row ↦ row.getD column 0⟩

end VestingTable

end Tokenomics
