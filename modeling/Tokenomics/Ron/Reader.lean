import Tokenomics.Binary64.Reader
import Tokenomics.Datum.Basic
import Tokenomics.Text.CodePoint

/-!
# RON texts: reading

`Ron.parse?` reads object notation with round brackets: records as `(name: value)`, with a name in
front or without, or as `{ "name": value }`, and lists in brackets of either kind. A name that
nothing in brackets follows stands for nothing, as `()` and `None` do; what `Some` contains stands
for itself, and so does a single character for a text.

Whole numbers have 64 bits and may be written in the bases 2, 8 and 16; one without a sign that
exceeds the signed words, and whatever is no whole number, is a floating point number.
-/

namespace Tokenomics.Ron

/-! ## Blanks and comments -/

/-- Whether a character is blank. -/
def isSpace (c : Char) : Bool := c = ' ' || c = '\n' || c = '\t' || c = '\r'

/-- The rest after the ends of `level` comments inside each other. -/
def afterComments? : Nat → List Char → Option (List Char)
  | 0, cs => some cs
  | level + 1, '/' :: '*' :: rest => afterComments? (level + 2) rest
  | level + 1, '*' :: '/' :: rest => afterComments? level rest
  | level + 1, _ :: rest => afterComments? (level + 1) rest
  | _ + 1, [] => none

/-- The rest after blanks and comments, at most `fuel` of them; none after a slash that starts no
comment and in a comment without end. -/
def skipSpaces? : Nat → List Char → Option (List Char)
  | 0, cs => some cs
  | fuel + 1, cs =>
    match cs.dropWhile isSpace with
    | '/' :: '/' :: rest => skipSpaces? fuel (rest.dropWhile (· ≠ '\n'))
    | '/' :: '*' :: rest => do skipSpaces? fuel (← afterComments? 1 rest)
    | '/' :: _ => none
    | cs => some cs

/-- The rest after blanks and comments. -/
def skip? (cs : List Char) : Option (List Char) := skipSpaces? cs.length cs

/-- The rest after a comma, if there is one, and the blanks and comments around it. -/
def afterComma? (cs : List Char) : Option (Bool × List Char) := do
  match ← skip? cs with
  | ',' :: rest => return (true, ← skip? rest)
  | rest => return (false, rest)

/-! ## Names -/

/-- Whether a name may begin with a character. -/
def isNameStart (c : Char) : Bool := c.isAlpha || c = '_'

/-- Whether a name may go on with a character. -/
def isNameChar (c : Char) : Bool := c.isAlphanum || c = '_'

/-- Whether a character may stand in a name that is marked as one. -/
def isMarkedNameChar (c : Char) : Bool := isNameChar c || c = '.' || c = '+' || c = '-'

/-- A name, and what follows it. A mark `r#` before it allows more characters. -/
def readName? (cs : List Char) : Option (List Char × List Char) :=
  match cs with
  | ['r'] | 'r' :: '"' :: _ => none
  | 'r' :: '#' :: rest =>
    let name := rest.takeWhile isMarkedNameChar
    if name.isEmpty then none else some (name, rest.dropWhile isMarkedNameChar)
  | c :: _ =>
    if isNameStart c then some (cs.takeWhile isNameChar, cs.dropWhile isNameChar) else none
  | [] => none

/-- The rest after a word that is not the beginning of a longer name. -/
def afterWord? (word : String) (cs : List Char) : Option (List Char) :=
  let rest := cs.drop word.length
  if word.toList.isPrefixOf cs && !rest.head?.any isNameChar then some rest else none

/-! ## Numbers -/

/-- Whether a character may stand in a number with a point or an exponent. -/
def isRealChar (c : Char) : Bool :=
  c.isDigit || c = 'e' || c = 'E' || c = '.' || c = '+' || c = '-' || c = '_'

/-- Whether a character may stand in a whole number of some base. -/
def isWholeChar (c : Char) : Bool := Text.isHexDigit c || c = '_'

/-- The base that the front of a number names, and what follows that. -/
def splitBase (cs : List Char) : Nat × List Char :=
  match cs with
  | '0' :: 'x' :: rest => (16, rest)
  | '0' :: 'b' :: rest => (2, rest)
  | '0' :: 'o' :: rest => (8, rest)
  | _ => (10, cs)

/-- A natural number, and what follows it; underscores may stand behind its first digit. -/
def readNatural? (cs : List Char) : Option (Nat × List Char) :=
  let (base, cs) := splitBase cs
  let digits := cs.takeWhile isWholeChar
  if digits.isEmpty || digits.head? = some '_' then none
  else (Text.valueIn? base (digits.filter (· ≠ '_'))).map (·, cs.dropWhile isWholeChar)

/-- A whole number of 64 bits, and what follows it. -/
def readWhole? (cs : List Char) : Option (Datum × List Char) := do
  match cs with
  | '-' :: rest =>
    let (n, rest) ← readNatural? rest
    if n ≤ 1 <<< 63 then return (.integer (-n), rest) else none
  | '+' :: rest =>
    let (n, rest) ← readNatural? rest
    if n < 1 <<< 63 then return (.nat n, rest) else none
  | _ =>
    let (n, rest) ← readNatural? cs
    if n < 1 <<< 63 then return (.nat n, rest)
    else if n < 1 <<< 64 then return (.real (.nearest false n 1), rest)
    else none

/-- The numbers that are written as words. -/
def realWords : List (String × Binary64) :=
  [("inf", .infinite false), ("+inf", .infinite false), ("-inf", .infinite true), ("NaN", .nan),
    ("+NaN", .nan), ("-NaN", .nan)]

/-- One of the words for numbers, and what follows it. -/
def readRealWord? (cs : List Char) : Option (Datum × List Char) :=
  realWords.findSome? fun (word, x) ↦ (afterWord? word cs).map (.real x, ·)

/-- A floating point number, and what follows it. -/
def readReal? (cs : List Char) : Option (Datum × List Char) :=
  (readRealWord? cs).or
    ((Binary64.ofChars? (cs.takeWhile isRealChar)).map (.real ·, cs.dropWhile isRealChar))

/-- A number, and what follows it. One that looks like a whole number but is none may still have
the form of the other kind. -/
def readNumber? (cs : List Char) : Option (Datum × List Char) :=
  let body := match cs with
    | '-' :: rest | '+' :: rest => rest
    | _ => cs
  if (body.takeWhile isWholeChar).length < (body.takeWhile isRealChar).length then readReal? cs
  else (readWhole? cs).or (readReal? cs)

/-! ## Texts -/

/-- The digits of a code point up to the closing brace, and what follows it: one to six of them. -/
def readBraced? (cs : List Char) : Option (Char × List Char) :=
  let digits := cs.takeWhile Text.isHexDigit
  match cs.dropWhile Text.isHexDigit with
  | '\x7d' :: rest =>
    if digits.isEmpty || 6 < digits.length then none
    else ((Text.valueIn? 16 digits).bind Text.ofCodePoint?).map (·, rest)
  | _ => none

/-- An escape behind its backslash, and what follows it. -/
def readEscape? : List Char → Option (Char × List Char)
  | 'n' :: rest => some ('\n', rest)
  | 'r' :: rest => some ('\r', rest)
  | 't' :: rest => some ('\t', rest)
  | '0' :: rest => some ('\x00', rest)
  | 'x' :: a :: b :: rest => (Text.valueIn? 16 [a, b]).map (Char.ofNat ·, rest)
  | 'u' :: '\x7b' :: rest => readBraced? rest
  | c :: rest => if c = '\'' || c = '"' || c = '\\' then some (c, rest) else none
  | [] => none

/-- The characters up to the closing quote, and what follows the quote. -/
def readQuoted? : Nat → List Char → Option (List Char × List Char)
  | 0, _ | _, [] => none
  | _ + 1, '"' :: rest => some ([], rest)
  | fuel + 1, '\\' :: rest => do
    let (c, rest) ← readEscape? rest
    let (tail, rest) ← readQuoted? fuel rest
    return (c :: tail, rest)
  | fuel + 1, c :: rest => do
    let (tail, rest) ← readQuoted? fuel rest
    return (c :: tail, rest)

/-- The characters up to the first occurrence of `stop`, and what follows that. -/
def readUpTo? (stop : List Char) : List Char → Option (List Char × List Char)
  | [] => none
  | c :: rest =>
    if stop.isPrefixOf (c :: rest) then some ([], (c :: rest).drop stop.length)
    else (readUpTo? stop rest).map fun (tail, r) ↦ (c :: tail, r)

/-- A text without escapes behind the letter that marks it, and what follows it. It ends with a
quote and as many hash signs as it began with. -/
def readRaw? (cs : List Char) : Option (List Char × List Char) :=
  let hashes := cs.takeWhile (· = '#')
  match cs.dropWhile (· = '#') with
  | '"' :: rest => readUpTo? ('"' :: hashes) rest
  | _ => none

/-- A single character behind its opening quote, and what follows the closing one. -/
def readChar? (cs : List Char) : Option (List Char × List Char) := do
  let (c, rest) ← match cs with
    | '\\' :: rest => readEscape? rest
    | '\'' :: _ | [] => none
    | c :: rest => some (c, rest)
  match rest with
  | '\'' :: rest => return ([c], rest)
  | _ => none

/-! ## Values -/

/-- A value that contains no others, and what follows it. -/
def readScalar? (cs : List Char) : Option (Datum × List Char) :=
  let text (r : List Char × List Char) : Datum × List Char := (.text (String.ofList r.1), r.2)
  match cs with
  | '"' :: rest => (readQuoted? cs.length rest).map text
  | 'r' :: rest => (readRaw? rest).map text
  | '\'' :: rest => (readChar? rest).map text
  | '.' :: _ => readReal? cs
  | c :: _ => if c.isDigit || c = '+' || c = '-' then readNumber? cs else none
  | [] => none

/-- A word that stands for a value, and what follows it. -/
def readWord? (cs : List Char) : Option (Datum × List Char) :=
  let words : List (String × Datum) := [("true", .bool true), ("false", .bool false),
    ("None", .null), ("inf", .real (.infinite false)), ("-inf", .real (.infinite true)),
    ("NaN", .real .nan)]
  words.findSome? fun (word, d) ↦ (afterWord? word cs).map (d, ·)

/-- Whether what is in round brackets begins without a name and a colon, as lists do. -/
def beginsList? (cs : List Char) : Option Bool :=
  match readName? cs with
  | none => some true
  | some (_, rest) => do return (← (← skip? rest).head?) ≠ ':'

/-- How deeply values may be nested, lists and records counting twice. -/
def nestingLimit : Nat := 128

mutual

/-- The value at the front, and what follows it. `fuel` bounds the number of steps, two for each
character being enough, and `room` the depth that is left. -/
def readValue : Nat → Nat → List Char → Option (Datum × List Char)
  | 0, _, _ => none
  | fuel + 1, room, cs =>
    match readWord? cs, afterWord? "Some" cs with
    | some r, _ => some r
    | none, some rest => readSome fuel room rest
    | none, none =>
      match cs with
      | '(' :: ')' :: rest => some (.null, rest)
      | '[' :: rest => (readItems fuel room ']' rest).map fun (items, r) ↦ (.list items, r)
      | '\x7b' :: rest => (readFields fuel room true rest).map fun (fields, r) ↦ (.record fields, r)
      | _ =>
        match readName? cs with
        | some (_, rest) => do readNamed fuel room (← skip? rest)
        | none =>
          match cs with
          | '(' :: _ => readNamed fuel room cs
          | _ => readScalar? cs

/-- What follows the word for a value that is there: the value in round brackets. -/
def readSome : Nat → Nat → List Char → Option (Datum × List Char)
  | 0, _, _ | _, 0, _ => none
  | fuel + 1, room + 1, cs => do
    let '(' :: rest ← skip? cs | none
    let (d, rest) ← readValue fuel room (← skip? rest)
    let (_, ')' :: rest) ← afterComma? rest | none
    return (d, rest)

/-- What follows a name: a record or a list in round brackets, or nothing. -/
def readNamed : Nat → Nat → List Char → Option (Datum × List Char)
  | 0, _, _ => none
  | fuel + 1, room, cs =>
    match cs with
    | '(' :: rest => do
      if ← beginsList? (← skip? rest) then
        (readItems fuel room ')' rest).map fun (items, r) ↦ (.list items, r)
      else (readFields fuel room false rest).map fun (fields, r) ↦ (.record fields, r)
    | _ => some (.null, cs)

/-- The items up to the closing bracket. -/
def readItems : Nat → Nat → Char → List Char → Option (List Datum × List Char)
  | 0, _, _, _ => none
  | fuel + 1, room, close, cs => do
    let cs ← skip? cs
    if room = 0 then none
    else if cs.head? = some close then return ([], cs.drop 1)
    else if room = 1 then none
    else
      let (d, rest) ← readValue fuel (room - 2) cs
      let (more, rest) ← afterComma? rest
      if more then
        let (items, rest) ← readItems fuel room close rest
        return (d :: items, rest)
      else if rest.head? = some close then return ([d], rest.drop 1)
      else none

/-- The fields up to the closing bracket. Their names are values in braces, which must be texts, and
names without quotes in round brackets. -/
def readFields : Nat → Nat → Bool → List Char → Option (List (String × Datum) × List Char)
  | 0, _, _, _ => none
  | fuel + 1, room, braced, cs => do
    let close := if braced then '\x7d' else ')'
    let cs ← skip? cs
    if room = 0 then none
    else if cs.head? = some close then return ([], cs.drop 1)
    else if room = 1 then none
    else
      let (key, rest) ← if braced then do
          let (.text key, rest) ← readValue fuel (room - 2) cs | none
          pure (key, rest)
        else do
          let (name, rest) ← readName? cs
          pure (String.ofList name, rest)
      let ':' :: rest ← skip? rest | none
      let (d, rest) ← readValue fuel (room - 2) (← skip? rest)
      let (more, rest) ← afterComma? rest
      if more then
        let (fields, rest) ← readFields fuel room braced rest
        return ((key, d) :: fields, rest)
      else if rest.head? = some close then return ([(key, d)], rest.drop 1)
      else none

end

/-! ## Documents -/

/-- The features that a document may ask for. None of them changes how data are read. -/
def features : List String := ["unwrap_newtypes", "implicit_some", "unwrap_variant_newtypes"]

/-- The rest after parts that stand one after the other, with blanks and comments between them. -/
def afterAll? (parts : List String) (cs : List Char) : Option (List Char) :=
  parts.foldlM (fun cs part ↦
    if part.toList.isPrefixOf cs then skip? (cs.drop part.length) else none) cs

/-- The rest after a list of features, at most `fuel` of them. -/
def afterFeatures? : Nat → List Char → Option (List Char)
  | 0, _ => none
  | fuel + 1, cs => do
    let (name, rest) ← readName? cs
    let (more, rest) ← afterComma? rest
    if !features.contains (String.ofList name) then none
    else if more && rest.head?.any isNameChar then afterFeatures? fuel rest
    else afterAll? [")", "]"] rest

/-- The rest after the requests for features at the front, at most `fuel` of them. -/
def afterRequests? : Nat → List Char → Option (List Char)
  | 0, _ => none
  | fuel + 1, cs =>
    match cs with
    | '#' :: _ => do
      let rest ← afterAll? ["#", "!", "[", "enable", "("] cs
      afterRequests? fuel (← afterFeatures? rest.length rest)
    | _ => some cs

/-- The data that a text stands for; repeated fields are all kept. -/
def parse? (s : String) : Option Datum := do
  let cs ← skip? s.toList
  let cs ← afterRequests? (cs.length + 1) cs
  let (d, rest) ← readValue (2 * cs.length + 2) nestingLimit cs
  if (← skip? rest).isEmpty then some d else none

end Tokenomics.Ron
