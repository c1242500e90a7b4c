import Tokenomics.Text.Blank

/-!
# Comma separated tables

Rows of fields with commas between them, one row to a line. A field that begins with a quote runs
to the closing quote, may hold commas and line ends, and has a quote written twice for each of its
own; what follows the closing quote belongs to the field as it stands. Empty lines are no rows,
and a byte order mark at the front is ignored.
-/

namespace Tokenomics.Csv

/-- Where the reader stands. -/
inductive Position where
  /-- Before the first field of a row. -/
  | rowStart
  /-- Before a field, after a comma. -/
  | fieldStart
  /-- Inside a field, quotes having no meaning. -/
  | plain
  /-- Inside quotes. -/
  | quoted
  /-- After a quote inside quotes. -/
  | quoteInQuotes
deriving DecidableEq

/-- What has been read; fields, rows and characters in reverse order. -/
structure State where
  position : Position
  field : List Char
  row : List (List Char)
  rows : List (List (List Char))

/-- The state before the first character. -/
def State.start : State := ⟨.rowStart, [], [], []⟩

/-- Whether a character ends a line. -/
def isLineEnd (c : Char) : Bool := c = '\n' || c = '\r'

/-- The field is complete. -/
def State.endField (s : State) : State :=
  ⟨.fieldStart, [], s.field.reverse :: s.row, s.rows⟩

/-- The field and the row are complete. -/
def State.endRow (s : State) : State :=
  ⟨.rowStart, [], [], (s.field.reverse :: s.row).reverse :: s.rows⟩

/-- One more character outside quotes. -/
def State.unquoted (s : State) (c : Char) : State :=
  if c = ',' then s.endField
  else if isLineEnd c then s.endRow
  else { s with position := .plain, field := c :: s.field }

/-- One more character. -/
def State.step (s : State) (c : Char) : State :=
  match s.position with
  | .rowStart =>
    if isLineEnd c then s
    else if c = '"' then { s with position := .quoted }
    else s.unquoted c
  | .fieldStart => if c = '"' then { s with position := .quoted } else s.unquoted c
  | .plain => s.unquoted c
  | .quoted =>
    if c = '"' then { s with position := .quoteInQuotes } else { s with field := c :: s.field }
  | .quoteInQuotes =>
    if c = '"' then { s with position := .quoted, field := c :: s.field } else s.unquoted c

/-- The rows when no character is left. -/
def State.finish (s : State) : List (List (List Char)) :=
  match s.position with
  | .rowStart => s.rows.reverse
  | _ => s.endRow.rows.reverse

/-- The characters without a byte order mark. -/
def withoutMark : List Char → List Char
  | '\ufeff' :: rest => rest
  | cs => cs

/-- The rows of a table, every field without blanks around it. -/
def rows (s : String) : List (List String) :=
  let raw := ((withoutMark s.toList).foldl State.step .start).finish
  raw.map (·.map fun field ↦ String.ofList (Text.trimChars field))

end Tokenomics.Csv
