import Tokenomics.Binary64.Basic
import Tokenomics.Datum.Basic
import Tokenomics.Text.Blank
import Tokenomics.Text.CodePoint
import Tokenomics.Text.Letters
import Tokenomics.Text.Numeral

/-!
# JSON5 texts: reading

`Json5.parse?` reads JSON as people write it: with comments, names without quotes, texts in either
kind of quotes, commas after the last item, and numbers with signs, in base 16, or with their point
at either end.

Whole numbers have 64 bits, those in base 16 32 bits and no sign; other numbers must not be too
large. A number that is written as infinite or as none at all has no plus sign.
-/

namespace Tokenomics.Json5

/-! ## Blanks and comments -/

/-- Whether a character ends a line. -/
def isLineEnd (c : Char) : Bool := c = '\n' || c = '\r' || c = '\u2028' || c = '\u2029'

/-- Whether a character is blank. -/
def isSpace (c : Char) : Bool := c = '\ufeff' || (Text.isBlank c && c ≠ '\x85')

/-- The rest after the end of a comment in asterisks. -/
def afterComment? : List Char → Option (List Char)
  | '*' :: '/' :: rest => some rest
  | _ :: rest => afterComment? rest
  | [] => none

/-- The rest after blanks and comments, at most `fuel` of them. -/
def skipSpaces : Nat → List Char → List Char
  | 0, cs => cs
  | fuel + 1, cs =>
    match cs with
    | '/' :: '/' :: rest => skipSpaces fuel (rest.dropWhile (!isLineEnd ·))
    | '/' :: '*' :: rest =>
      match afterComment? rest with
      | some rest => skipSpaces fuel rest
      | none => cs
    | c :: rest => if isSpace c then skipSpaces fuel rest else cs
    | [] => []

/-- The rest after blanks and comments. -/
def skip (cs : List Char) : List Char := skipSpaces cs.length cs

/-! ## Texts and names -/

/-- A part of a text or a name as it is written: a character, or a code unit given by number. -/
inductive Part where
  | char (c : Char)
  | unit (n : Nat)
deriving DecidableEq

/-- The characters of the parts, two code units making one character where they are a pair; none
when half of a pair stands alone. -/
def joinParts : List Part → Option (List Char)
  | [] => some []
  | .char c :: rest => (joinParts rest).map (c :: ·)
  | .unit n :: .unit m :: rest =>
    if Text.isHighHalf n && Text.isLowHalf m then
      (joinParts rest).map (Text.ofHalves n m :: ·)
    else do return (← Text.ofCodePoint? n) :: (← joinParts (.unit m :: rest))
  | .unit n :: rest => do return (← Text.ofCodePoint? n) :: (← joinParts rest)

/-- The code unit in four hexadecimal digits at the front, and what follows them. -/
def readUnit : List Char → Option (Nat × List Char)
  | a :: b :: c :: d :: rest => (Text.valueIn? 16 [a, b, c, d]).map (·, rest)
  | _ => none

/-- The character that stands for itself or for another one after a backslash; none for digits and
for the letters that numbers follow. -/
def escaped? (c : Char) : Option Char :=
  match c with
  | 'b' => some '\x08'
  | 'f' => some '\x0c'
  | 'n' => some '\n'
  | 'r' => some '\r'
  | 't' => some '\t'
  | 'v' => some '\x0b'
  | 'x' | 'u' => none
  | _ => if c.isDigit then none else some c

/-- The parts up to the closing quote, and what follows the quote. Backslash and line end together
stand for nothing. -/
def readParts (quote : Char) : List Char → Option (List Part × List Char)
  | [] => none
  | '\\' :: '\r' :: '\n' :: rest => readParts quote rest
  | '\\' :: '0' :: rest => do
    let (parts, rest) ← readParts quote rest
    return (.char '\x00' :: parts, rest)
  | '\\' :: 'x' :: a :: b :: rest => do
    let n ← Text.valueIn? 16 [a, b]
    let (parts, rest) ← readParts quote rest
    return (.char (Char.ofNat n) :: parts, rest)
  | '\\' :: 'u' :: a :: b :: c :: d :: rest => do
    let n ← Text.valueIn? 16 [a, b, c, d]
    let (parts, rest) ← readParts quote rest
    return (.unit n :: parts, rest)
  | '\\' :: c :: rest => do
    let (parts, rest) ← readParts quote rest
    if isLineEnd c then return (parts, rest)
    else return (.char (← escaped? c) :: parts, rest)
  | c :: rest =>
    if c = quote then some ([], rest)
    else if c = '\\' || isLineEnd c then none
    else do
      let (parts, rest) ← readParts quote rest
      return (.char c :: parts, rest)

/-- A text behind its opening quote, and what follows it. -/
def readText (quote : Char) (cs : List Char) : Option (String × List Char) := do
  let (parts, rest) ← readParts quote cs
  return (String.ofList (← joinParts parts), rest)

/-- Whether a name may begin with a character. -/
def isNameStart (c : Char) : Bool := c = '$' || c = '_' || Text.isLetter c

/-- Whether a name may go on with a character. -/
def isNameChar (c : Char) : Bool :=
  isNameStart c || Text.isNameMark c || c = '\u200c' || c = '\u200d'

/-- The parts of the rest of a name, and what follows it. -/
def readNameParts : List Char → List Part × List Char
  | '\\' :: 'u' :: a :: b :: c :: d :: rest =>
    match Text.valueIn? 16 [a, b, c, d] with
    | some n =>
      let (parts, rest) := readNameParts rest
      (.unit n :: parts, rest)
    | none => ([], '\\' :: 'u' :: a :: b :: c :: d :: rest)
  | c :: rest =>
    if isNameChar c then
      let (parts, rest) := readNameParts rest
      (.char c :: parts, rest)
    else ([], c :: rest)
  | [] => ([], [])

/-- A name without quotes, and what follows it. -/
def readName (cs : List Char) : Option (String × List Char) := do
  let (parts, rest) := readNameParts cs
  match parts with
  | [] => none
  | .char c :: _ => if isNameStart c then return (String.ofList (← joinParts parts), rest) else none
  | .unit _ :: _ => return (String.ofList (← joinParts parts), rest)

/-- The name of a field, in quotes or without, and what follows it. -/
def readKey (cs : List Char) : Option (String × List Char) :=
  match cs with
  | '"' :: rest => readText '"' rest
  | '\'' :: rest => readText '\'' rest
  | _ => readName cs

/-! ## Numbers -/

/-- The digits at the front, and what follows them. -/
def spanDigits (cs : List Char) : List Char × List Char :=
  (cs.takeWhile Char.isDigit, cs.dropWhile Char.isDigit)

/-- The digits in front of the point and what follows them; a zero has no more digits behind it. -/
def readWhole (cs : List Char) : List Char × List Char :=
  match cs with
  | '0' :: rest => (['0'], rest)
  | _ => spanDigits cs

/-- The point and the digits behind it, if they stand here, and what follows them. -/
def readFraction : List Char → Option (List Char) × List Char
  | '.' :: rest => ((spanDigits rest).map some id)
  | cs => (none, cs)

/-- The exponent, if one stands here, and what follows it. -/
def readExponent (cs : List Char) : Option Int × List Char :=
  match cs with
  | c :: rest =>
    let (negative, digits) := match rest with
      | '-' :: r => (true, r)
      | '+' :: r => (false, r)
      | r => (false, r)
    let (ds, after) := spanDigits digits
    if (c = 'e' || c = 'E') && !ds.isEmpty then
      let n : Int := Numeral.value ds
      (some (if negative then -n else n), after)
    else (none, cs)
  | [] => (none, [])

/-- A whole number of 64 bits. -/
def ofWord? (n : Int) : Option Datum :=
  if -Datum.signedBound ≤ n && n < Datum.signedBound then some (.integer n) else none

/-- A number with decimal digits behind its sign, and what follows it. -/
def readDecimal (negative : Bool) (cs : List Char) : Option (Datum × List Char) := do
  let (whole, rest) := readWhole cs
  let (fraction, rest) := readFraction rest
  let (exponent, rest) := readExponent rest
  let ds := whole ++ fraction.getD []
  if ds.isEmpty then none
  else match fraction, exponent with
    | none, none =>
      let n : Int := Numeral.value whole
      return (← ofWord? (if negative then -n else n), rest)
    | _, _ =>
      let e := exponent.getD 0 - (fraction.getD []).length
      let x := Binary64.ofScientific negative (Numeral.value ds) e ds.length
      if x.isFinite then return (.real x, rest) else none

/-- A number in base 16, and what follows it. -/
def readBased (cs : List Char) : Option (Datum × List Char) := do
  let n ← Text.valueIn? 16 (cs.takeWhile Text.isHexDigit)
  if n < 1 <<< 32 then return (.nat n, cs.dropWhile Text.isHexDigit) else none

/-- The rest after a word, if it stands here. -/
def afterWord? (word : String) (cs : List Char) : Option (List Char) :=
  if word.toList.isPrefixOf cs then some (cs.drop word.length) else none

/-- A number behind its sign, which `negative` and `plus` tell. One in base 16 has no sign. -/
def readMagnitude (negative plus : Bool) (cs : List Char) : Option (Datum × List Char) :=
  match cs with
  | 'I' :: _ =>
    if plus then none
    else (afterWord? "Infinity" cs).map (.real (.infinite negative), ·)
  | 'N' :: _ => if plus then none else (afterWord? "NaN" cs).map (.real .nan, ·)
  | '0' :: x :: c :: _ =>
    if (x = 'x' || x = 'X') && Text.isHexDigit c then
      if negative || plus then none else readBased (cs.drop 2)
    else readDecimal negative cs
  | _ => readDecimal negative cs

/-- A number, and what follows it. -/
def readNumber : List Char → Option (Datum × List Char)
  | '-' :: rest => readMagnitude true false rest
  | '+' :: rest => readMagnitude false true rest
  | cs => readMagnitude false false cs

/-! ## Values -/

/-- A value that is no list and no record, and what follows it. -/
def readScalar (cs : List Char) : Option (Datum × List Char) :=
  match cs with
  | '"' :: rest => (readText '"' rest).map fun (s, r) ↦ (.text s, r)
  | '\'' :: rest => (readText '\'' rest).map fun (s, r) ↦ (.text s, r)
  | 'n' :: _ => (afterWord? "null" cs).map (.null, ·)
  | 't' :: _ => (afterWord? "true" cs).map (.bool true, ·)
  | 'f' :: _ => (afterWord? "false" cs).map (.bool false, ·)
  | _ => readNumber cs

mutual

/-- The value at the front, and what follows it and blanks. `fuel` bounds the number of steps; one
for each character is enough. -/
def readValue : Nat → List Char → Option (Datum × List Char)
  | 0, _ => none
  | fuel + 1, cs => do
    let (d, rest) ← match cs with
      | '[' :: rest =>
        match skip rest with
        | ']' :: r => some (.list [], r)
        | r => (readItems fuel r).map fun (items, r) ↦ (.list items, r)
      | '\x7b' :: rest =>
        match skip rest with
        | '\x7d' :: r => some (.record [], r)
        | r => (readFields fuel r).map fun (fields, r) ↦ (.record fields, r)
      | _ => readScalar cs
    return (d, skip rest)

/-- The items from here to the closing bracket, at least one. -/
def readItems : Nat → List Char → Option (List Datum × List Char)
  | 0, _ => none
  | fuel + 1, cs => do
    let (d, rest) ← readValue fuel cs
    match rest with
    | ']' :: r => return ([d], r)
    | ',' :: r =>
      match skip r with
      | ']' :: r => return ([d], r)
      | r =>
        let (items, r) ← readItems fuel r
        return (d :: items, r)
    | _ => none

/-- The fields from here to the closing brace, at least one. -/
def readFields : Nat → List Char → Option (List (String × Datum) × List Char)
  | 0, _ => none
  | fuel + 1, cs => do
    let (k, rest) ← readKey cs
    let ':' :: rest := skip rest | none
    let (d, rest) ← readValue fuel (skip rest)
    match rest with
    | '\x7d' :: r => return ([(k, d)], r)
    | ',' :: r =>
      match skip r with
      | '\x7d' :: r => return ([(k, d)], r)
      | r =>
        let (fields, r) ← readFields fuel r
        return ((k, d) :: fields, r)
    | _ => none

end

/-- The data that a text stands for; repeated fields are all kept. -/
def parse? (s : String) : Option Datum := do
  let cs := s.toList
  let (d, rest) ← readValue (cs.length + 1) (skip cs)
  if rest.isEmpty then some d else none

end Tokenomics.Json5
