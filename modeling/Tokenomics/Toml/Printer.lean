import Tokenomics.Binary64.Text
import Tokenomics.Datum.Basic

/-!
# TOML texts: writing

`Toml.render` writes a record as a document: first the fields that are no tables, one to a line,
then every table under a header of its own, with an empty line before each header that is not the
first line. A null field is left out.
-/

namespace Tokenomics.Toml

/-- A character as it stands in a text. -/
def escapeChar (c : Char) : List Char :=
  match c with
  | '"' => ['\\', '"']
  | '\\' => ['\\', '\\']
  | '\n' => ['\\', 'n']
  | '\r' => ['\\', 'r']
  | '\t' => ['\\', 't']
  | '\x08' => ['\\', 'b']
  | '\x0c' => ['\\', 'f']
  | _ =>
    let n := c.toNat
    if n < 32 || n = 127 then
      ['\\', 'u', '0', '0', Nat.digitChar (n / 16), Nat.digitChar (n % 16)]
    else [c]

/-- A text between quotes. -/
def textOf (s : String) : String := "\"" ++ String.ofList (s.toList.flatMap escapeChar) ++ "\""

/-- A scalar; nothing for lists and records. -/
def scalar : Datum → String
  | .bool true => "true"
  | .bool false => "false"
  | .integer n => if n < 0 then "-" ++ Numeral.text n.natAbs else Numeral.text n.natAbs
  | .real x => x.text
  | .text s => textOf s
  | .date standard => standard
  | _ => ""

mutual

/-- A value on the right of an equals sign. -/
def inlineValue : Datum → String
  | .list [] | .openList [] => "[]"
  | .list items | .openList items => "[\n" ++ inlineItems items ++ "]"
  | .record [] => "\x7b\x7d"
  | .record fields => "\x7b " ++ inlineFields fields ++ " \x7d"
  | d => scalar d

/-- The items of an array, each on its own line. -/
def inlineItems : List Datum → String
  | [] => ""
  | d :: rest => "    " ++ inlineValue d ++ ",\n" ++ inlineItems rest

/-- The fields of an inline table. -/
def inlineFields : List (String × Datum) → String
  | [] => ""
  | [(k, d)] => k ++ " = " ++ inlineValue d
  | (k, d) :: rest => k ++ " = " ++ inlineValue d ++ ", " ++ inlineFields rest

end

/-- The lines of the fields that are no tables. -/
def plainLines : List (String × Datum) → List String
  | [] => []
  | (_, .record _) :: rest | (_, .null) :: rest => plainLines rest
  | (k, d) :: rest => (k ++ " = " ++ inlineValue d ++ "\n") :: plainLines rest

mutual

/-- The sections of the tables among the fields, in order; a table without lines of its own gets
no header. -/
def sections (path : String) : List (String × Datum) → List String
  | [] => []
  | (k, d) :: rest => tableSections (path ++ k) d ++ sections path rest

/-- The section of a table, then those of the tables in it. -/
def tableSections (path : String) : Datum → List String
  | .record fields =>
    let lines := plainLines fields
    let own := if lines.isEmpty && !fields.isEmpty then []
      else ["[" ++ path ++ "]\n" ++ String.join lines]
    own ++ sections (path ++ ".") fields
  | _ => []

end

/-- The document of a record; nothing for other data. -/
def render : Datum → String
  | .record fields =>
    let lines := plainLines fields
    let own := if lines.isEmpty then [] else [String.join lines]
    String.intercalate "\n" (own ++ sections "" fields)
  | _ => ""

end Tokenomics.Toml
