import Tokenomics.Decimal.Basic
import Tokenomics.Rounding
import Tokenomics.Text.Numeral

/-!
# Decimal texts

`Decimal.text` writes a decimal with exactly `scale` places. `Decimal.ofText?` reads plain and
scientific forms: an optional sign, digits with an optional point among them, underscores after
the first digit, and an optional exponent.

A text may hold more digits than a decimal. Digits are read until one does not fit any more,
because 28 places are used up or because the coefficient would reach `2 ^ 96`; behind the point
that digit rounds those before it, up from five, and the digits after it do not count. Before the
point it refuses the text. An exponent then moves the point of what was read, which may round it
once more.
-/

namespace Tokenomics.Decimal

/-! ## Writing -/

/-- The digits of `n`, filled up with zeros on the left to at least `width`. -/
def paddedDigits (width n : Nat) : List Char :=
  let ds := Numeral.digits n
  List.replicate (width - ds.length) '0' ++ ds

/-- The magnitude `n / 10 ^ s` with all its places. -/
def magnitudeText (n s : Nat) : List Char :=
  let ds := paddedDigits (s + 1) n
  let whole := ds.take (ds.length - s)
  if s = 0 then whole else whole ++ '.' :: ds.drop (ds.length - s)

/-- The text of a decimal: a minus sign when it is negative, the whole part, and exactly `scale`
places behind a point. -/
def text (a : Decimal) : String :=
  let body := magnitudeText a.magnitude a.scale
  String.ofList (if a.negative then '-' :: body else body)

/-! ## Reading -/

/-- How far the digits have been read. -/
structure Progress where
  /-- The digits read so far, as a number. -/
  coefficient : Nat
  /-- How many of them stand behind the point. -/
  scale : Nat
  /-- Whether the point has been read. -/
  pointed : Bool
  /-- Whether a digit has been read. -/
  started : Bool

/-- The state before the first digit. -/
def Progress.start : Progress := ⟨0, 0, false, false⟩

/-- The bound below which all digits but the last have to stay for an underscore right behind the
last place to count as a zero: 255 below a tenth of the largest machine word. -/
def shortBound : Nat := 1844674407370954906

/-- The digit by which the rest of a text rounds the digits read before, zero if there is none.
The rest has only digits and underscores. An underscore in front of it is passed over, or counts
as a zero behind few digits. -/
def Progress.roundingDigit? (p : Progress) (cs : List Char) : Option Nat :=
  if cs.all fun c ↦ c.isDigit || c = '_' then
    if cs.head? = some '_' && p.coefficient / 10 < shortBound then some 0
    else some (((cs.find? Char.isDigit).map Numeral.digitValue).getD 0)
  else none

/-- The digits read so far, rounded by the first digit `d` that does not fit. A carry beyond the
largest coefficient gives up one more place. -/
def Progress.roundBy (p : Progress) (d : Nat) : Option (Nat × Nat) :=
  let c := if d < 5 then p.coefficient else p.coefficient + 1
  if c < 1 <<< 96 then some (c, p.scale)
  else if p.scale = 0 then none
  else some ((c + 4) / 10, p.scale - 1)

/-- Magnitude and scale of the digits that follow `p`. -/
def readDigits (p : Progress) : List Char → Option (Nat × Nat)
  | [] => if p.started then some (p.coefficient, p.scale) else none
  | c :: rest =>
    if p.pointed && p.scale == 28 then (p.roundingDigit? (c :: rest)).bind p.roundBy
    else if c.isDigit then
      let next := 10 * p.coefficient + Numeral.digitValue c
      if next < 1 <<< 96 then
        readDigits ⟨next, if p.pointed then p.scale + 1 else p.scale, p.pointed, true⟩ rest
      else if p.pointed then (p.roundingDigit? (c :: rest)).bind p.roundBy
      else none
    else if c = '.' && !p.pointed then readDigits { p with pointed := true } rest
    else if c = '_' && p.started then readDigits p rest
    else none

/-- The decimal that digits behind a sign stand for; zero has no sign. -/
def ofDigits? (negative : Bool) (cs : List Char) : Option Decimal := do
  let (n, s) ← readDigits .start cs
  ofParts? (negative && n != 0) n s

/-- A decimal without an exponent. -/
def ofPlain? : List Char → Option Decimal
  | '-' :: rest => ofDigits? true rest
  | '+' :: rest => ofDigits? false rest
  | cs => ofDigits? false cs

/-- The decimal with its point moved `n` places to the left, by at most 28. Places that would come
to lie behind the last one are rounded away, a tie up; a value that is lost in this way keeps its
sign. -/
def shiftLeft? (a : Decimal) (n : Nat) : Option Decimal :=
  if 28 < n then none
  else if a.scale + n ≤ 28 then ofParts? a.negative a.magnitude (a.scale + n)
  else ofParts? a.negative (halfUp a.magnitude (tenPow (a.scale + n - 28))) 28

/-- The decimal with its point moved `n` places to the right; past the last digit by at most 28
places in all. -/
def shiftRight? (a : Decimal) (n : Nat) : Option Decimal :=
  if n ≤ a.scale then ofParts? a.negative a.magnitude (a.scale - n)
  else if n ≤ 28 then ofParts? a.negative (a.magnitude * tenPow (n - a.scale)) 0
  else none

/-- The largest exponent that can be written, plus one. -/
def exponentBound : Nat := 1 <<< 32

/-- The point of `a` moved as an exponent says. -/
def applyExponent? (a : Decimal) : List Char → Option Decimal
  | '-' :: digits => (Numeral.unsigned? exponentBound digits).bind a.shiftLeft?
  | cs => (Numeral.unsigned? exponentBound cs).bind a.shiftRight?

/-- Whether a character starts an exponent. -/
def isExponentMark (c : Char) : Bool := c = 'e' || c = 'E'

/-- The decimal that a list of characters stands for. -/
def ofChars? (cs : List Char) : Option Decimal :=
  match cs.dropWhile (!isExponentMark ·) with
  | [] => ofPlain? cs
  | _ :: exponent =>
    (ofPlain? (cs.takeWhile (!isExponentMark ·))).bind (applyExponent? · exponent)

/-- The decimal that a text stands for. -/
def ofText? (s : String) : Option Decimal := ofChars? s.toList

end Tokenomics.Decimal
