import Tokenomics.Datum.Basic
import Tokenomics.Text.Blank
import Tokenomics.Text.CodePoint

/-!
# INI texts

`Ini.parse?` reads keys with values, one to a line, under headings in brackets. Every value is a
text. The fields before the first heading are those of the document itself, and every heading is a
field with a record of its own.

A comment takes a whole line, its mark standing first. A key runs to the equals sign or colon after
it, over lines if need be, and a value to the end of its line. Parts of a value in quotes may hold
line ends. A backslash gives characters that could not be written otherwise.
-/

namespace Tokenomics.Ini

/-! ## Characters by name -/

/-- The character that a letter stands for after a backslash. -/
def escaped (c : Char) : Char :=
  match c with
  | '0' => '\x00'
  | 'a' => '\x07'
  | 'b' => '\x08'
  | 't' => '\t'
  | 'r' => '\r'
  | 'n' => '\n'
  | _ => c

/-- The character with a number in base 16, a plus sign before its digits being passed over. -/
def ofCode? (cs : List Char) : Option Char :=
  let digits := match cs with
    | '+' :: digits => digits
    | digits => digits
  (Text.valueIn? 16 digits).bind Text.ofCodePoint?

/-- The characters up to the first that ends them, and the rest from that one on. Without such a
character they go on to the end of the text, if that is allowed. -/
def readUntil (isEnd : Char → Bool) (mayEnd : Bool) : List Char → Option (List Char × List Char)
  | [] => if mayEnd then some ([], []) else none
  | '\\' :: '\n' :: rest => readUntil isEnd mayEnd rest
  | '\\' :: 'x' :: a :: b :: c :: d :: rest => do
    let e ← ofCode? [a, b, c, d]
    let (tail, rest) ← readUntil isEnd mayEnd rest
    return (e :: tail, rest)
  | '\\' :: c :: rest => do
    let (tail, rest) ← readUntil isEnd mayEnd rest
    if c = 'x' then none else return (escaped c :: tail, rest)
  | c :: rest =>
    if isEnd c then some ([], c :: rest)
    else if c = '\\' then none
    else do
      let (tail, rest) ← readUntil isEnd mayEnd rest
      return (c :: tail, rest)

/-! ## Values -/

/-- Whether a character ends a line. -/
def isLineEnd (c : Char) : Bool := c = '\n' || c = '\r'

/-- The characters without the blank ones at the end. -/
def trimEnd (cs : List Char) : List Char := (cs.reverse.dropWhile Text.isBlank).reverse

/-- A value up to the end of its line, and the rest: parts in quotes at the front, at most `fuel` of
them, then anything else. -/
def readValue : Nat → List Char → Option (List Char × List Char)
  | fuel + 1, '"' :: rest => do
    let (part, rest) ← readUntil (· = '"') false rest
    let (tail, rest) ← readValue fuel (rest.drop 1)
    return (part ++ tail, rest)
  | fuel + 1, '\'' :: rest => do
    let (part, rest) ← readUntil (· = '\'') false rest
    let (tail, rest) ← readValue fuel (rest.drop 1)
    return (part ++ tail, rest)
  | _, cs => (readUntil isLineEnd true cs).map fun (part, rest) ↦ (trimEnd part, rest)

/-- The value behind an equals sign or colon, and the rest from the end of its line on. -/
def readField (cs : List Char) : Option (String × List Char) :=
  let cs := cs.dropWhile fun c ↦ Text.isBlank c && !isLineEnd c
  (readValue cs.length cs).map fun (value, rest) ↦ (String.ofList (Text.trimChars value), rest)

/-! ## Documents -/

/-- What has been read: the fields of the document, the heading in force and the fields under it. -/
structure Progress where
  fields : List (String × Datum)
  heading : Option String
  entries : List (String × Datum)

/-- The fields of the document when nothing more comes under the heading in force. -/
def Progress.close (p : Progress) : List (String × Datum) :=
  match p.heading with
  | none => p.fields ++ p.entries
  | some name => p.fields ++ [(name, .record p.entries)]

/-- The rest after blanks, and whether it begins a line, `atStart` saying so of the blanks. -/
def skipBlanks (atStart : Bool) : List Char → Bool × List Char
  | [] => (atStart, [])
  | c :: rest => if Text.isBlank c then skipBlanks (c = '\n') rest else (atStart, c :: rest)

/-- The fields of a document of at most `fuel` comments, headings and fields. -/
def readFrom : Nat → Bool → Progress → List Char → Option (List (String × Datum))
  | 0, _, _, _ => none
  | fuel + 1, atStart, p, cs =>
    match skipBlanks atStart cs with
    | (_, []) => some p.close
    | (_, '[' :: rest) => do
      let (name, rest) ← readUntil (· = ']') false rest
      let heading := some (String.ofList (Text.trimChars name))
      readFrom fuel false ⟨p.close, heading, []⟩ (rest.drop 1)
    | (atStart, c :: rest) =>
      if c = ';' || c = '#' then
        if atStart then readFrom fuel false p (rest.dropWhile (· ≠ '\n')) else none
      else do
        let (key, rest) ← readUntil (fun c ↦ c = '=' || c = ':') false (c :: rest)
        let key := Text.trimChars key
        let (value, rest) ← readField (rest.drop 1)
        if key.isEmpty then none
        else
          readFrom fuel false
            { p with entries := p.entries ++ [(String.ofList key, .text value)] } rest

/-- The data that a document stands for; repeated fields are all kept. -/
def parse? (s : String) : Option Datum :=
  let cs := s.toList
  (readFrom (cs.length + 1) true ⟨[], none, []⟩ cs).map .record

end Tokenomics.Ini
