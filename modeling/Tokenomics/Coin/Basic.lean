import Tokenomics.Coin.Amount
import Tokenomics.Text.Blank

/-!
# Coins

A coin is an amount of one denomination, written as the digits of the amount directly followed by
the denomination. Reading a coin ignores blanks around it.
-/

namespace Tokenomics

/-- Whether a character may stand in a denomination after the first one. -/
def isDenomChar (c : Char) : Bool :=
  c.isAlpha || c.isDigit || c = '/' || c = ':' || c = '.' || c = '_' || c = '-'

/-- Whether a list of characters is a denomination: a letter, then 2 to 127 letters, digits or
marks. -/
def isDenomChars : List Char → Bool
  | [] => false
  | c :: cs => c.isAlpha && cs.all isDenomChar && 2 ≤ cs.length && cs.length ≤ 127

/-- Whether a text is a denomination. -/
def isDenom (s : String) : Bool := isDenomChars s.toList

/-- An amount of one denomination. -/
structure Coin where
  denom : String
  amount : Amount
deriving DecidableEq, Inhabited

/-- Coins in a given order, well formed or not. -/
structure Coins where
  toList : List Coin
deriving DecidableEq, Inhabited

/-- Why a text or a list of coins is refused. -/
inductive CoinError where
  | invalidDenom (denom : String)
  | nonPositiveAmount (coin : Coin)
  | unsorted (coins : Coins)
  | duplicateDenom (denom : String)
  | unreadable (text : String)
deriving DecidableEq, Inhabited

namespace Coin

/-- Whether the coin has no units. -/
def isZero (c : Coin) : Bool := c.amount.isZero

/-- The characters of a coin: the digits of the amount, then the denomination. -/
def chars (c : Coin) : List Char := Numeral.digits c.amount.toNat ++ c.denom.toList

/-- The text of a coin. -/
def text (c : Coin) : String := String.ofList c.chars

/-- The coin that a list of characters stands for, blanks around it aside. -/
def ofChars? (cs : List Char) : Option Coin :=
  let body := Text.trimChars cs
  let denom := body.dropWhile Char.isDigit
  if isDenomChars denom then
    ((Numeral.natural? (body.takeWhile Char.isDigit)).bind Amount.ofNat?).map
      (⟨String.ofList denom, ·⟩)
  else none

/-- The coin that a piece of text stands for. -/
def ofChars (cs : List Char) : Except CoinError Coin :=
  match ofChars? cs with
  | some c => .ok c
  | none => .error (.unreadable (String.ofList cs))

/-- The coin that a text stands for. -/
def ofText (s : String) : Except CoinError Coin := ofChars s.toList

end Coin

/-- Accept a denomination or say what is wrong with it. -/
def checkDenom (denom : String) : Except CoinError Unit :=
  if isDenom denom then .ok () else .error (.invalidDenom denom)

end Tokenomics
