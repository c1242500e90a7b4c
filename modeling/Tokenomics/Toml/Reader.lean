import Tokenomics.Binary64.Basic
import Tokenomics.Text.CodePoint
import Tokenomics.Text.Numeral
import Tokenomics.Toml.Tree

/-!
# TOML texts: reading

`Toml.parse?` reads a TOML document as data. Tables become records, and arrays and arrays of tables
open lists. Whole numbers have 64 bits, and a larger one refuses the document; dates and times must
exist, a second of the day being at most 60.
-/

namespace Tokenomics.Toml

/-! ## Blanks and comments -/

/-- Whether a character is a blank inside a line. -/
def isSpace (c : Char) : Bool := c = ' ' || c = '\t'

/-- The rest after blanks inside the line. -/
def skipSpaces (cs : List Char) : List Char := cs.dropWhile isSpace

/-- Whether a character may stand in a comment or a text. -/
def isPlain (c : Char) : Bool := c = '\t' || (32 ≤ c.toNat && c.toNat ≠ 127)

/-- The rest after a line end, if one stands here. -/
def lineEnd? : List Char → Option (List Char)
  | '\n' :: rest => some rest
  | '\r' :: '\n' :: rest => some rest
  | _ => none

/-- The rest after a comment, if one stands here. -/
def skipComment (cs : List Char) : List Char :=
  match cs with
  | '#' :: rest => rest.dropWhile isPlain
  | _ => cs

/-- The rest after the end of a line, blanks and a comment before it passed over. -/
def endLine? (cs : List Char) : Option (List Char) :=
  match skipComment (skipSpaces cs) with
  | [] => some []
  | cs => lineEnd? cs

/-- The rest after blanks, comments and line ends, within `fuel` lines. -/
def skipLines : Nat → List Char → List Char
  | 0, cs => cs
  | fuel + 1, cs =>
    match skipComment (skipSpaces cs) with
    | [] => []
    | cs => match lineEnd? cs with
      | some rest => skipLines fuel rest
      | none => cs

/-! ## Texts -/

/-- The character given by `n` hexadecimal digits, and what follows them. -/
def readCode (n : Nat) (cs : List Char) : Option (Char × List Char) := do
  let ds := cs.take n
  if ds.length < n then none
  else
    return (← Text.ofCodePoint? (← Text.valueIn? 16 ds), cs.drop n)

/-- The character that a letter stands for after a backslash. -/
def escaped? : Char → Option Char
  | 'b' => some '\x08'
  | 't' => some '\t'
  | 'n' => some '\n'
  | 'f' => some '\x0c'
  | 'r' => some '\r'
  | '"' => some '"'
  | '\\' => some '\\'
  | _ => none

/-- An escape behind its backslash, and what follows it. -/
def readEscape : List Char → Option (Char × List Char)
  | 'u' :: rest => readCode 4 rest
  | 'U' :: rest => readCode 8 rest
  | c :: rest => (escaped? c).map (·, rest)
  | [] => none

/-- The characters up to the closing quote of a text on one line. -/
def readBasic : Nat → List Char → Option (List Char × List Char)
  | 0, _ | _, [] => none
  | _ + 1, '"' :: rest => some ([], rest)
  | fuel + 1, '\\' :: rest => do
    let (c, rest) ← readEscape rest
    let (tail, rest) ← readBasic fuel rest
    return (c :: tail, rest)
  | fuel + 1, c :: rest =>
    if isPlain c then do
      let (tail, rest) ← readBasic fuel rest
      return (c :: tail, rest)
    else none

/-- The characters up to the closing quote of a text without escapes on one line. -/
def readLiteral : List Char → Option (List Char × List Char)
  | [] => none
  | '\'' :: rest => some ([], rest)
  | c :: rest =>
    if isPlain c then (readLiteral rest).map fun (tail, r) ↦ (c :: tail, r) else none

/-- The rest after blanks and line ends. -/
def skipBlankLines : List Char → List Char
  | '\r' :: '\n' :: rest => skipBlankLines rest
  | c :: rest => if isSpace c || c = '\n' then skipBlankLines rest else c :: rest
  | [] => []

/-- The characters up to the three closing quotes `q` of a text on several lines, with escapes or
without. Up to two quotes may stand before the closing ones. -/
def readLong (q : Char) (escapes : Bool) : Nat → List Char → Option (List Char × List Char)
  | 0, _ | _, [] => none
  | fuel + 1, c :: rest =>
    if c = q then
      match rest.takeWhile (· = q) with
      | [] => (readLong q escapes fuel rest).map fun (tail, r) ↦ (c :: tail, r)
      | [_] => (readLong q escapes fuel (rest.drop 1)).map fun (tail, r) ↦ (c :: c :: tail, r)
      | quotes =>
        let extra := min 2 (quotes.length - 2)
        some (List.replicate extra q, rest.drop (2 + extra))
    else if escapes && c = '\\' then
      let afterBlanks := skipSpaces rest
      match lineEnd? afterBlanks with
      | some rest => readLong q escapes fuel (skipBlankLines rest)
      | none => do
        let (c, rest) ← readEscape rest
        let (tail, rest) ← readLong q escapes fuel rest
        return (c :: tail, rest)
    else
      match lineEnd? (c :: rest) with
      | some rest => (readLong q escapes fuel rest).map fun (tail, r) ↦ ('\n' :: tail, r)
      | none =>
        if isPlain c then (readLong q escapes fuel rest).map fun (tail, r) ↦ (c :: tail, r)
        else none

/-- The rest without a line end at the front. -/
def dropLineEnd (cs : List Char) : List Char := (lineEnd? cs).getD cs

/-- A text, if one stands here. -/
def readText (cs : List Char) : Option (List Char × List Char) :=
  match cs with
  | '"' :: '"' :: '"' :: rest => readLong '"' true cs.length (dropLineEnd rest)
  | '\'' :: '\'' :: '\'' :: rest => readLong '\'' false cs.length (dropLineEnd rest)
  | '"' :: rest => readBasic cs.length rest
  | '\'' :: rest => readLiteral rest
  | _ => none

/-! ## Keys -/

/-- Whether a character may stand in a key without quotes. -/
def isBareKeyChar (c : Char) : Bool := c.isAlphanum || c = '_' || c = '-'

/-- One part of a key. -/
def readKeyPart (cs : List Char) : Option (String × List Char) :=
  match cs with
  | '"' :: rest => (readBasic cs.length rest).map fun (k, r) ↦ (String.ofList k, r)
  | '\'' :: rest => (readLiteral rest).map fun (k, r) ↦ (String.ofList k, r)
  | _ =>
    let k := cs.takeWhile isBareKeyChar
    if k.isEmpty then none else some (String.ofList k, cs.dropWhile isBareKeyChar)

/-- How many parts a key may have, and how many brackets of values may stand inside each other. -/
def nestingLimit : Nat := 79

/-- A key of at most `n` parts with points between them, blanks around each part passed over. -/
def readParts : Nat → List Char → Option (List String × List Char)
  | 0, _ => none
  | n + 1, cs => do
    let (part, rest) ← readKeyPart (skipSpaces cs)
    match skipSpaces rest with
    | '.' :: rest =>
      let (parts, rest) ← readParts n rest
      return (part :: parts, rest)
    | rest => return ([part], rest)

/-- A key. -/
def readKey (cs : List Char) : Option (List String × List Char) := readParts nestingLimit cs

/-! ## Numbers -/

/-- The digits of a run in which single underscores may stand between digits. -/
def withoutSeparators? (isDigit : Char → Bool) : List Char → Option (List Char)
  | [] => none
  | [c] => if isDigit c then some [c] else none
  | c :: '_' :: rest =>
    if isDigit c then (withoutSeparators? isDigit rest).map (c :: ·) else none
  | c :: rest => if isDigit c then (withoutSeparators? isDigit rest).map (c :: ·) else none

/-- A number of 64 bits with a sign. -/
def ofWord? (n : Int) : Option Datum :=
  if -Datum.signedBound ≤ n && n < Datum.signedBound then some (.integer n) else none

/-- A number in the base that a letter stands for. -/
def readBased? (letter : Char) (cs : List Char) : Option Datum := do
  let base ← match letter with
    | 'x' => some 16
    | 'o' => some 8
    | 'b' => some 2
    | _ => none
  let ds ← withoutSeparators? (fun c ↦ (Text.hexValue? c).any (· < base)) cs
  ofWord? (← Text.valueIn? base ds)

/-- The digits of a whole part, without leading zeros. -/
def wholeDigits? (cs : List Char) : Option (List Char) :=
  (withoutSeparators? Char.isDigit cs).filter fun ds ↦ ds.head? ≠ some '0' || ds.length = 1

/-- The value of an exponent behind its mark. -/
def exponent? : List Char → Option Int
  | '-' :: cs => (withoutSeparators? Char.isDigit cs).map fun ds ↦ -(Numeral.value ds : Int)
  | '+' :: cs => (withoutSeparators? Char.isDigit cs).map fun ds ↦ (Numeral.value ds : Int)
  | cs => (withoutSeparators? Char.isDigit cs).map fun ds ↦ (Numeral.value ds : Int)

/-- Whether a character marks an exponent. -/
def isExponentMark (c : Char) : Bool := c = 'e' || c = 'E'

/-- A number with a point or an exponent, behind its sign. -/
def float? (negative : Bool) (cs : List Char) : Option Datum := do
  let mantissa := cs.takeWhile (!isExponentMark ·)
  let exponent ← match cs.dropWhile (!isExponentMark ·) with
    | [] => some 0
    | _ :: e => exponent? e
  let whole ← wholeDigits? (mantissa.takeWhile (· ≠ '.'))
  let fraction ← match mantissa.dropWhile (· ≠ '.') with
    | [] => some []
    | _ :: f => withoutSeparators? Char.isDigit f
  let ds := whole ++ fraction
  let e := exponent - fraction.length
  match Binary64.ofScientific negative (Numeral.value ds) e ds.length with
  | .infinite false => none
  | x => return .real x

/-- A number behind its sign. -/
def magnitude? (negative : Bool) (cs : List Char) : Option Datum :=
  if cs = "inf".toList then some (.real (.infinite negative))
  else if cs = "nan".toList then some (.real .nan)
  else if cs.any fun c ↦ c = '.' || isExponentMark c then float? negative cs
  else do
    let n : Int := Numeral.value (← wholeDigits? cs)
    ofWord? (if negative then -n else n)

/-- A number. -/
def number? (cs : List Char) : Option Datum :=
  match cs with
  | '0' :: c :: rest =>
    if c.isAlpha && !isExponentMark c then readBased? c rest else magnitude? false cs
  | '-' :: rest => magnitude? true rest
  | '+' :: rest => magnitude? false rest
  | _ => magnitude? false cs

/-! ## Dates and times -/

/-- Whether a text has the shape of a pattern, in which `0` stands for any digit. -/
def hasShape (pattern : String) (cs : List Char) : Bool :=
  pattern.toList.length = cs.length && (pattern.toList.zip cs).all fun (p, c) ↦
    if p = '0' then c.isDigit else p = c

/-- The number in two digits at a position. -/
def twoDigitsAt (cs : List Char) (i : Nat) : Nat := Numeral.value ((cs.drop i).take 2)

/-- Whether a year has a 29th of February. -/
def isLeapYear (year : Nat) : Bool := year % 4 = 0 && (year % 100 ≠ 0 || year % 400 = 0)

/-- How many days a month has. -/
def daysIn (year month : Nat) : Nat :=
  if month = 2 then if isLeapYear year then 29 else 28
  else if month = 4 || month = 6 || month = 9 || month = 11 then 30
  else 31

/-- Whether a list of characters is a date. -/
def isDate (cs : List Char) : Bool :=
  let month := twoDigitsAt cs 5
  let day := twoDigitsAt cs 8
  hasShape "0000-00-00" cs && 1 ≤ month && month ≤ 12 && 1 ≤ day
    && day ≤ daysIn (Numeral.value (cs.take 4)) month

/-- Digits without the zeros at their end. -/
def withoutFinalZeros (ds : List Char) : List Char := (ds.reverse.dropWhile (· = '0')).reverse

/-- The standard text of a time of day: of the fraction of a second nine digits count, and zeros
at its end are dropped. -/
def time? (cs : List Char) : Option (List Char) :=
  let clock := cs.take 8
  if hasShape "00:00:00" clock && twoDigitsAt clock 0 ≤ 23 && twoDigitsAt clock 3 ≤ 59
      && twoDigitsAt clock 6 ≤ 60 then
    match cs.drop 8 with
    | [] => some clock
    | '.' :: ds =>
      if ds.isEmpty || !ds.all Char.isDigit then none
      else match withoutFinalZeros (ds.take 9) with
        | [] => some clock
        | ds => some (clock ++ '.' :: ds)
    | _ => none
  else none

/-- The standard text of an offset from universal time. -/
def offset? (cs : List Char) : Option (List Char) :=
  if cs = ['Z'] || cs = ['z'] then some ['Z']
  else if (hasShape "+00:00" cs || hasShape "-00:00" cs)
      && twoDigitsAt cs 1 ≤ 23 && twoDigitsAt cs 4 ≤ 59 then
    some (if cs = "-00:00".toList then "+00:00".toList else cs)
  else none

/-- Whether a character starts an offset. -/
def isOffsetStart (c : Char) : Bool := c = 'Z' || c = 'z' || c = '+' || c = '-'

/-- The standard text of a time of day with or without an offset. -/
def timeWithOffset? (cs : List Char) : Option (List Char) :=
  match cs.dropWhile (!isOffsetStart ·) with
  | [] => time? cs
  | offset => do return (← time? (cs.takeWhile (!isOffsetStart ·))) ++ (← offset? offset)

/-- The standard text of a date, a time, or both, the last with an offset or not. -/
def dateTime? (cs : List Char) : Option (List Char) :=
  match cs.drop 10 with
  | [] => if isDate cs then some cs else time? cs
  | c :: time =>
    if isDate (cs.take 10) then
      if c = 'T' || c = 't' || c = ' ' then
        (timeWithOffset? time).map fun t ↦ cs.take 10 ++ 'T' :: t
      else none
    else time? cs

/-- Whether a character may stand in a value without quotes. -/
def isTokenChar (c : Char) : Bool :=
  c.isAlphanum || c = '_' || c = '-' || c = '+' || c = '.' || c = ':'

/-- A truth value, a date or time, or a number. -/
def ofToken? (token : List Char) : Option Datum :=
  if token = "true".toList then some (.bool true)
  else if token = "false".toList then some (.bool false)
  else match dateTime? token with
    | some standard => some (.date (String.ofList standard))
    | none => number? token

/-- A value without quotes and brackets. A date may be followed by a blank and a time. -/
def readToken (cs : List Char) : Option (Datum × List Char) :=
  let token := cs.takeWhile isTokenChar
  let rest := cs.dropWhile isTokenChar
  let alone := (ofToken? token).map (·, rest)
  match rest with
  | ' ' :: more =>
    if isDate token then
      match dateTime? (token ++ ' ' :: more.takeWhile isTokenChar) with
      | some standard => some (.date (String.ofList standard), more.dropWhile isTokenChar)
      | none => alone
    else alone
  | _ => alone

/-! ## Values -/

mutual

/-- The value at the front, and what follows it. `fuel` bounds the number of steps, one for each
character being enough, and `room` how many brackets may still be opened. -/
def readValue : Nat → Nat → List Char → Option (Datum × List Char)
  | 0, _, _ => none
  | fuel + 1, room, cs =>
    match cs with
    | '[' :: rest =>
      if room = 0 then none
      else (readArray fuel (room - 1) rest).map fun (items, r) ↦ (.openList items, r)
    | '\x7b' :: rest =>
      if room = 0 then none
      else match skipSpaces rest with
        | '\x7d' :: r => some (.record [], r)
        | r => (readInline fuel (room - 1) [] r).map fun (entries, r) ↦
            (.record (entriesData entries), r)
    | '"' :: _ | '\'' :: _ => (readText cs).map fun (s, r) ↦ (.text (String.ofList s), r)
    | _ => readToken cs

/-- The items of an array up to the closing bracket. -/
def readArray : Nat → Nat → List Char → Option (List Datum × List Char)
  | 0, _, _ => none
  | fuel + 1, room, cs =>
    match skipLines cs.length cs with
    | ']' :: rest => some ([], rest)
    | cs => do
      let (d, rest) ← readValue fuel room cs
      match skipLines rest.length rest with
      | ',' :: rest =>
        let (items, rest) ← readArray fuel room rest
        return (d :: items, rest)
      | ']' :: rest => return ([d], rest)
      | _ => none

/-- The entries of an inline table up to the closing brace, at least one, added to those before. -/
def readInline : Nat → Nat → Entries → List Char → Option (Entries × List Char)
  | 0, _, _, _ => none
  | fuel + 1, room, entries, cs => do
    let (key, rest) ← readKey cs
    let '=' :: rest := rest | none
    let (d, rest) ← readValue fuel room (skipSpaces rest)
    let entries ← entries.insertDotted d key
    match skipSpaces rest with
    | ',' :: rest => readInline fuel room entries rest
    | '\x7d' :: rest => return (entries, rest)
    | _ => none

end

/-! ## Documents -/

/-- A document read up to some line: its entries, and the path of the table being filled. -/
structure Progress where
  root : Entries
  path : List String

/-- The last part of a path and those before it. -/
def splitLast? (path : List String) : Option (List String × String) :=
  path.getLast?.map (path.dropLast, ·)

/-- Open the table or the array item that a header names. -/
def openHeader (p : Progress) (isItem : Bool) (path : List String) : Option Progress := do
  let (front, last) ← splitLast? path
  let root ← p.root.updateAt
    (fun es ↦ if isItem then es.openItem last else es.openTable last) front
  return ⟨root, path⟩

/-- One line that is neither empty nor a comment, and the rest after it. -/
def readLine (p : Progress) (cs : List Char) : Option (Progress × List Char) :=
  match cs with
  | '[' :: '[' :: rest => do
    let (path, rest) ← readKey rest
    let ']' :: ']' :: rest := rest | none
    return (← openHeader p true path, ← endLine? rest)
  | '[' :: rest => do
    let (path, rest) ← readKey rest
    let ']' :: rest := rest | none
    return (← openHeader p false path, ← endLine? rest)
  | _ => do
    let (key, rest) ← readKey cs
    let '=' :: rest := rest | none
    let (d, rest) ← readValue cs.length nestingLimit (skipSpaces rest)
    let root ← p.root.updateAt (·.insertDotted d key) p.path
    return (⟨root, p.path⟩, ← endLine? rest)

/-- The lines of a document, at most `fuel` of them. -/
def readLines : Nat → Progress → List Char → Option Entries
  | 0, _, _ => none
  | fuel + 1, p, cs =>
    match skipLines cs.length cs with
    | [] => some p.root
    | cs => do
      let (p, rest) ← readLine p cs
      readLines fuel p rest

/-- The data that a document stands for. -/
def parse? (s : String) : Option Datum :=
  let cs := match s.toList with
    | '\ufeff' :: rest => rest
    | cs => cs
  (readLines (cs.length + 1) ⟨[], []⟩ cs).map fun entries ↦ .record (entriesData entries)

/-- The value that a document stands for. -/
def decode? {α : Type} [Codec α] (s : String) : Option α := (parse? s).bind Codec.decode?

end Tokenomics.Toml
