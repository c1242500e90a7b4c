import Tokenomics.Coin.Basic
import Tokenomics.SortedMap

/-!
# Lists of coins

Amounts of several denominations. A list is valid when its denominations are well formed and
strictly ascending and no amount is zero; `normalized` brings any list into that order, adding up
what it has of one denomination and dropping what is zero. The text is the coins' texts with
commas between them.
-/

namespace Tokenomics.Coins

/-- No coins. -/
def empty : Coins := ⟨[]⟩

/-- Whether there is no unit of any denomination. -/
def isZero (cs : Coins) : Bool := cs.toList.all Coin.isZero

/-- How much there is of a denomination, over the whole list. -/
def amountOf (cs : Coins) (denom : String) : Amount :=
  Amount.total ((cs.toList.filter (·.denom == denom)).map (·.amount))

/-! ## The canonical form -/

/-- One more coin in a table of amounts by denomination. -/
def collect (m : SortedMap String Amount) (c : Coin) : SortedMap String Amount :=
  m.modify c.denom .zero (·.addSaturating c.amount)

/-- The coins with zero amounts dropped, equal denominations added up, in ascending order. -/
def normalized (l : List Coin) : Coins :=
  let table := (l.filter (!·.isZero)).foldl collect ∅
  ⟨table.entries.map fun (d, a) ↦ ⟨d, a⟩⟩

/-- An amount of one denomination; no coin when it is zero. -/
def single (denom : String) (amount : Amount) : Coins := normalized [⟨denom, amount⟩]

/-! ## Validity -/

/-- Whether `c` may follow a coin of denomination `previous` in `whole`. -/
def checkOrder (whole : Coins) (c : Coin) (previous : String) : Except CoinError Unit :=
  match compare previous c.denom with
  | .lt => .ok ()
  | .eq => .error (.duplicateDenom c.denom)
  | .gt => .error (.unsorted whole)

/-- Check the coins from some position on, `previous` being the denomination before it. -/
def validateFrom (whole : Coins) (previous : Option String) : List Coin → Except CoinError Unit
  | [] => .ok ()
  | c :: rest => do
    checkDenom c.denom
    if c.isZero then throw (.nonPositiveAmount c)
    if let some p := previous then checkOrder whole c p
    validateFrom whole (some c.denom) rest

/-- Accept valid coins, or say what is wrong at the first place where something is: the
denomination, the amount, a repetition, the order. -/
def validate (cs : Coins) : Except CoinError Unit := validateFrom cs none cs.toList

/-- Whether the coins are valid. -/
def isValid (cs : Coins) : Bool := cs.validate.isOk

/-! ## Text -/

/-- The text: the coins in order, with commas between them. -/
def text (cs : Coins) : String := String.ofList (Text.joinChars ',' (cs.toList.map Coin.chars))

/-- The coins that a text stands for. A blank text has none; otherwise every piece between commas
is a coin. -/
def ofText (s : String) : Except CoinError Coins :=
  if Text.allBlank s then .ok empty
  else do return ⟨← (Text.splitChars ',' s.toList).mapM Coin.ofChars⟩

end Tokenomics.Coins

namespace Tokenomics

/-- The wording of a coin error. -/
def CoinError.message : CoinError → String
  | .invalidDenom d => "invalid denom: " ++ d
  | .nonPositiveAmount c => "coin " ++ c.text ++ " amount is not positive"
  | .unsorted cs => "coins are not sorted by denom: " ++ cs.text
  | .duplicateDenom d => "duplicate denomination " ++ d
  | .unreadable s => "invalid coin expression: " ++ s

end Tokenomics
