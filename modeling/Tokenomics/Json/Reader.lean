import Tokenomics.Binary64.Approximate
import Tokenomics.Datum.Basic
import Tokenomics.Text.CodePoint

/-!
# JSON texts: reading

`Json.parse?` reads a text as data by the grammar of JSON: no leading zeros or plus signs, no
control characters inside texts, nothing but blanks after the value.

What the grammar allows and has no value here becomes unreadable: a text with half of a surrogate
pair, a record with such a name, and a number too large for any floating point number. A whole
number is exact; minus zero and everything with a point or an exponent is a floating point number.
-/

namespace Tokenomics.Json

/-! ## Scalars -/

/-- Whether a character is one of the four blanks of JSON. -/
def isSpace (c : Char) : Bool := c = ' ' || c = '\n' || c = '\t' || c = '\r'

/-- The rest after blanks. -/
def skipSpaces (cs : List Char) : List Char := cs.dropWhile isSpace

/-- The character that a letter stands for after a backslash. -/
def escaped? : Char → Option Char
  | '"' => some '"'
  | '\\' => some '\\'
  | '/' => some '/'
  | 'b' => some '\x08'
  | 'f' => some '\x0c'
  | 'n' => some '\n'
  | 'r' => some '\r'
  | 't' => some '\t'
  | _ => none

/-- A part of a text as it is written: a character, or a code unit given by number. -/
inductive TextPart where
  | char (c : Char)
  | unit (n : Nat)
deriving DecidableEq

/-- The parts up to the closing quote, and what follows the quote. -/
def readParts : List Char → Option (List TextPart × List Char)
  | [] => none
  | '"' :: rest => some ([], rest)
  | '\\' :: 'u' :: a :: b :: c :: d :: rest => do
    let n ← Text.valueIn? 16 [a, b, c, d]
    let (parts, r) ← readParts rest
    return (.unit n :: parts, r)
  | '\\' :: c :: rest => do
    let e ← escaped? c
    let (parts, r) ← readParts rest
    return (.char e :: parts, r)
  | c :: rest =>
    if c.toNat < 32 || c = '\\' then none
    else do
      let (parts, r) ← readParts rest
      return (.char c :: parts, r)

/-- The characters of the parts, two code units making one character where they are a pair; none
when half of a pair stands alone. -/
def joinParts : List TextPart → Option (List Char)
  | [] => some []
  | .char c :: rest => (joinParts rest).map (c :: ·)
  | .unit n :: .unit m :: rest =>
    if Text.isHighHalf n && Text.isLowHalf m then (joinParts rest).map (Text.ofHalves n m :: ·)
    else if Text.isHighHalf n || Text.isLowHalf n then none
    else (joinParts (.unit m :: rest)).map (Char.ofNat n :: ·)
  | .unit n :: rest =>
    if Text.isHighHalf n || Text.isLowHalf n then none else (joinParts rest).map (Char.ofNat n :: ·)

/-- The characters up to the closing quote, none in the first place when they hold half of a pair,
and what follows the quote. -/
def readText (cs : List Char) : Option (Option (List Char) × List Char) :=
  (readParts cs).map fun (parts, rest) ↦ (joinParts parts, rest)

/-- The digits at the front, and what follows them. -/
def spanDigits (cs : List Char) : List Char × List Char :=
  (cs.takeWhile Char.isDigit, cs.dropWhile Char.isDigit)

/-- The digits behind a point, if one stands here; a point without digits is refused. -/
def readFraction : List Char → Option (Option (List Char) × List Char)
  | '.' :: rest =>
    let (ds, rest) := spanDigits rest
    if ds.isEmpty then none else some (some ds, rest)
  | cs => some (none, cs)

/-- The exponent, if one stands here; a mark without digits is refused. -/
def readExponent : List Char → Option (Option Int × List Char)
  | c :: rest =>
    if c = 'e' || c = 'E' then
      let (negative, rest) := match rest with
        | '-' :: r => (true, r)
        | '+' :: r => (false, r)
        | r => (false, r)
      let (ds, rest) := spanDigits rest
      if ds.isEmpty then none
      else
        let n : Int := Numeral.value ds
        some (some (if negative then -n else n), rest)
    else some (none, c :: rest)
  | [] => some (none, [])

/-- The value of a numeral. -/
def numberOf (negative : Bool) (whole : List Char) (fraction : Option (List Char))
    (exponent : Option Int) : Datum :=
  match fraction, exponent with
  | none, none =>
    let n := Numeral.value whole
    if negative && n = 0 then .real (.finite true 0 Binary64.leastExponent)
    else if 308 < whole.length && (Binary64.approximate? negative whole [] 0).isNone then
      .unreadable
    else .integer (if negative then -n else n)
  | _, _ =>
    match Binary64.approximate? negative whole (fraction.getD []) (exponent.getD 0) with
    | some x => .real x
    | none => .unreadable

/-- A number behind its sign. -/
def readMagnitude (negative : Bool) (cs : List Char) : Option (Datum × List Char) := do
  let (whole, rest) := spanDigits cs
  if whole.isEmpty || (whole.head? = some '0' && 1 < whole.length) then none
  else
    let (fraction, rest) ← readFraction rest
    let (exponent, rest) ← readExponent rest
    return (numberOf negative whole fraction exponent, rest)

/-- A number. -/
def readNumber : List Char → Option (Datum × List Char)
  | '-' :: rest => readMagnitude true rest
  | cs => readMagnitude false cs

/-- The rest after a word, if it stands here. -/
def afterWord? (word cs : List Char) : Option (List Char) :=
  if word.isPrefixOf cs then some (cs.drop word.length) else none

/-- A scalar that is no text. -/
def readScalar (cs : List Char) : Option (Datum × List Char) :=
  match cs with
  | 'n' :: _ => (afterWord? "null".toList cs).map (.null, ·)
  | 't' :: _ => (afterWord? "true".toList cs).map (.bool true, ·)
  | 'f' :: _ => (afterWord? "false".toList cs).map (.bool false, ·)
  | _ => readNumber cs

/-! ## Lists and records -/

/-- A list of named values as data; unreadable when one of the names is. -/
def recordOf (fields : List (Option (List Char) × Datum)) : Datum :=
  match fields.mapM fun (k, d) ↦ k.map fun k ↦ (String.ofList k, d) with
  | some named => .record named
  | none => .unreadable

mutual

/-- The value at the front, and what follows it. `fuel` bounds the number of steps; one for each
character is enough. -/
def readValue : Nat → List Char → Option (Datum × List Char)
  | 0, _ => none
  | fuel + 1, cs =>
    match skipSpaces cs with
    | '"' :: rest => (readText rest).map fun (s, r) ↦
        (match s with
          | some s => .text (String.ofList s)
          | none => .unreadable, r)
    | '[' :: rest =>
      match skipSpaces rest with
      | ']' :: r => some (.list [], r)
      | r => (readItems fuel r).map fun (items, r) ↦ (.list items, r)
    | '\x7b' :: rest =>
      match skipSpaces rest with
      | '\x7d' :: r => some (.record [], r)
      | r => (readFields fuel r).map fun (fields, r) ↦ (recordOf fields, r)
    | cs => readScalar cs

/-- The items from here to the closing bracket, at least one. -/
def readItems : Nat → List Char → Option (List Datum × List Char)
  | 0, _ => none
  | fuel + 1, cs => do
    let (d, rest) ← readValue fuel cs
    match skipSpaces rest with
    | ',' :: r =>
      let (items, r) ← readItems fuel r
      return (d :: items, r)
    | ']' :: r => return ([d], r)
    | _ => none

/-- The fields from here to the closing brace, at least one. -/
def readFields : Nat → List Char → Option (List (Option (List Char) × Datum) × List Char)
  | 0, _ => none
  | fuel + 1, cs =>
    match skipSpaces cs with
    | '"' :: rest => do
      let (k, rest) ← readText rest
      match skipSpaces rest with
      | ':' :: r =>
        let (d, rest) ← readValue fuel r
        match skipSpaces rest with
        | ',' :: r =>
          let (fields, r) ← readFields fuel r
          return ((k, d) :: fields, r)
        | '\x7d' :: r => return ([(k, d)], r)
        | _ => none
      | _ => none
    | _ => none

end

/-- The data that some characters stand for. -/
def parseChars? (cs : List Char) : Option Datum := do
  let (d, rest) ← readValue (cs.length + 1) cs
  if (skipSpaces rest).isEmpty then some d else none

/-- The data that a text stands for. -/
def parse? (s : String) : Option Datum := parseChars? s.toList

/-- The value that a text stands for. -/
def decode? {α : Type} [Codec α] (s : String) : Option α := (parse? s).bind Codec.decode?

end Tokenomics.Json
