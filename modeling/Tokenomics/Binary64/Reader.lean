import Tokenomics.Binary64.Basic
import Tokenomics.Text.Numeral

/-!
# Reading floating point texts

`Binary64.ofChars?` reads decimal digits with an optional sign, an optional point anywhere among or
beside them, and an optional exponent, and rounds to the nearest number.
-/

namespace Tokenomics.Binary64

/-- The exponent in the digits behind an exponent's mark, which may have a sign. -/
def exponentOf? : List Char → Option Int
  | '-' :: digits => (Numeral.natural? digits).map fun n ↦ -(n : Int)
  | '+' :: digits => (Numeral.natural? digits).map fun n ↦ (n : Int)
  | digits => (Numeral.natural? digits).map fun n ↦ (n : Int)

/-- The number that characters behind a sign stand for. -/
def magnitudeOf? (negative : Bool) (cs : List Char) : Option Binary64 := do
  let whole := cs.takeWhile Char.isDigit
  let (fraction, rest) := match cs.dropWhile Char.isDigit with
    | '.' :: rest => (rest.takeWhile Char.isDigit, rest.dropWhile Char.isDigit)
    | rest => ([], rest)
  let exponent ← match rest with
    | [] => some 0
    | c :: digits => if c = 'e' || c = 'E' then exponentOf? digits else none
  let ds := whole ++ fraction
  if ds.isEmpty then none
  else return ofScientific negative (Numeral.value ds) (exponent - fraction.length) ds.length

/-- The number that characters stand for. -/
def ofChars? : List Char → Option Binary64
  | '-' :: rest => magnitudeOf? true rest
  | '+' :: rest => magnitudeOf? false rest
  | cs => magnitudeOf? false cs

end Tokenomics.Binary64
