import Tokenomics.Binary64.Text
import Tokenomics.Datum.Basic

/-!
# JSON texts: writing

`Json.compact` writes data without any blanks, `Json.pretty` with one item or field to a line and
two blanks for each level. Both keep the order of fields.

In a text, the quote and the backslash get a backslash before them, the control characters below
code 32 are escaped by letter or by number, and all other characters stand for themselves.
-/

namespace Tokenomics.Json

/-- Four hexadecimal digits of a number below `2 ^ 16`, in lower case. -/
def hex4 (n : Nat) : List Char :=
  [n / 4096 % 16, n / 256 % 16, n / 16 % 16, n % 16].map Nat.digitChar

/-- A character as it stands in a JSON text. -/
def escapeChar (c : Char) : List Char :=
  match c with
  | '"' => ['\\', '"']
  | '\\' => ['\\', '\\']
  | '\n' => ['\\', 'n']
  | '\r' => ['\\', 'r']
  | '\t' => ['\\', 't']
  | '\x08' => ['\\', 'b']
  | '\x0c' => ['\\', 'f']
  | _ => if c.toNat < 32 then '\\' :: 'u' :: hex4 c.toNat else [c]

/-- A text between quotes. -/
def textChars (s : String) : List Char := '"' :: s.toList.flatMap escapeChar ++ ['"']

/-- A whole number. -/
def integerChars (n : Int) : List Char :=
  if n < 0 then '-' :: Numeral.digits n.natAbs else Numeral.digits n.natAbs

/-- A scalar; nothing for lists and records. -/
def scalarChars : Datum → List Char
  | .null | .unreadable => "null".toList
  | .bool true => "true".toList
  | .bool false => "false".toList
  | .integer n => integerChars n
  | .real x => x.text.toList
  | .text s | .date s => textChars s
  | .list _ | .openList _ | .record _ => []

/-! ## The compact form -/

mutual

/-- The characters of the compact form. -/
def compactChars : Datum → List Char
  | .list items | .openList items => '[' :: compactItems items ++ [']']
  | .record fields => '\x7b' :: compactFields fields ++ ['\x7d']
  | d => scalarChars d

/-- Items with commas between them. -/
def compactItems : List Datum → List Char
  | [] => []
  | [d] => compactChars d
  | d :: rest => compactChars d ++ ',' :: compactItems rest

/-- Fields with commas between them. -/
def compactFields : List (String × Datum) → List Char
  | [] => []
  | [(k, d)] => textChars k ++ ':' :: compactChars d
  | (k, d) :: rest => textChars k ++ ':' :: compactChars d ++ ',' :: compactFields rest

end

/-- The compact form. -/
def compact (d : Datum) : String := String.ofList (compactChars d)

/-! ## The form for reading -/

/-- A new line at level `n`. -/
def newLine (n : Nat) : List Char := '\n' :: List.replicate (2 * n) ' '

mutual

/-- The characters of the form for reading, from level `n` on. -/
def prettyChars (n : Nat) : Datum → List Char
  | .list [] | .openList [] => ['[', ']']
  | .list items | .openList items => '[' :: prettyItems (n + 1) items ++ newLine n ++ [']']
  | .record [] => ['\x7b', '\x7d']
  | .record fields => '\x7b' :: prettyFields (n + 1) fields ++ newLine n ++ ['\x7d']
  | d => scalarChars d

/-- Items, each on its own line. -/
def prettyItems (n : Nat) : List Datum → List Char
  | [] => []
  | [d] => newLine n ++ prettyChars n d
  | d :: rest => newLine n ++ prettyChars n d ++ ',' :: prettyItems n rest

/-- Fields, each on its own line. -/
def prettyFields (n : Nat) : List (String × Datum) → List Char
  | [] => []
  | [(k, d)] => newLine n ++ textChars k ++ ':' :: ' ' :: prettyChars n d
  | (k, d) :: rest =>
    newLine n ++ textChars k ++ ':' :: ' ' :: prettyChars n d ++ ',' :: prettyFields n rest

end

/-- The form for reading. -/
def pretty (d : Datum) : String := String.ofList (prettyChars 0 d)

end Tokenomics.Json
