import Tokenomics.Binary64.Approximate
import Tokenomics.Binary64.Text
import Tokenomics.Datum.Basic
import Tokenomics.Decimal.Text

/-!
# Decimals as data

A decimal is written as its text. Read back are texts, whole numbers, and floating point numbers,
the last through their shortest text.
-/

namespace Tokenomics.Decimal

/-- The decimal that a floating point number stands for through its text. -/
def ofReal? (x : Binary64) : Option Decimal := ofText? x.text

/-- The decimal that a whole number stands for. One that exceeds a machine word counts as a
floating point number. -/
def ofInteger? (n : Int) : Option Decimal :=
  if -Datum.signedBound ≤ n && n < 2 * Datum.signedBound then mk? n 0
  else (Binary64.approximate? (n < 0) (Numeral.digits n.natAbs) [] 0).bind ofReal?

instance : Codec Decimal where
  encode a := .text a.text
  decode?
    | .text s => ofText? s
    | .integer n => ofInteger? n
    | .real x => ofReal? x
    | _ => none

end Tokenomics.Decimal
