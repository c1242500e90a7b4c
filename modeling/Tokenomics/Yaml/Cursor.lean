/-!
# Positions in a text of lines

A cursor is a place in a text that knows its line and column, and whether only blanks stand before
it on its line. Tokens of YAML depend on all of these.
-/

namespace Tokenomics.Yaml

/-- Whether a character is a blank inside a line. -/
def isBlank (c : Char) : Bool := c = ' ' || c = '\t'

/-- Whether a character ends a line. -/
def isBreak (c : Char) : Bool := c = '\n' || c = '\r'

/-- Whether a character is a bracket, brace or comma of the flow style. -/
def isFlowMark (c : Char) : Bool := c = ',' || c = '[' || c = ']' || c = '\x7b' || c = '\x7d'

/-- A place in a text. -/
structure Cursor where
  /-- The characters from here on. -/
  rest : List Char
  /-- How many characters stand before. -/
  index : Nat
  line : Nat
  column : Nat
  /-- Whether only blanks stand before on the line. -/
  isLeading : Bool
deriving Inhabited

namespace Cursor

/-- The beginning of a text. -/
def start (cs : List Char) : Cursor := ⟨cs, 0, 0, 0, true⟩

/-- Whether the text ends here. -/
def isEnd (c : Cursor) : Bool := c.rest.isEmpty

/-- Whether the next character, if there is one, satisfies a condition. -/
def sees (c : Cursor) (p : Char → Bool) : Bool := c.rest.head?.any p

/-- Whether the line or the text ends here. -/
def isLineEnd (c : Cursor) : Bool := c.rest.head?.all isBreak

/-- Whether a word ends here: before a blank, or where the line or the text ends. -/
def isWordEnd (cs : List Char) : Bool := cs.head?.all fun c ↦ isBlank c || isBreak c

/-- The cursor after `n` blanks. -/
def skipBlanks (c : Cursor) (n : Nat) : Cursor :=
  { c with rest := c.rest.drop n, index := c.index + n, column := c.column + n }

/-- The cursor after `n` characters that are not blank. -/
def skip (c : Cursor) (n : Nat) : Cursor := { c.skipBlanks n with isLeading := false }

/-- The cursor after the longest run of characters that satisfy a condition, and the run. -/
def span (c : Cursor) (p : Char → Bool) : List Char × Cursor :=
  let run := c.rest.takeWhile p
  (run, if run.isEmpty then c else c.skip run.length)

/-- The cursor after the end of a line, which may consist of two characters. -/
def skipBreak (c : Cursor) : Cursor :=
  match c.rest with
  | '\r' :: '\n' :: rest => ⟨rest, c.index + 2, c.line + 1, 0, true⟩
  | _ :: rest => ⟨rest, c.index + 1, c.line + 1, 0, true⟩
  | [] => c

/-- The cursor after what stands up to the end of the line. -/
def skipComment (c : Cursor) : Cursor := (c.span (!isBreak ·)).2

/-- The blanks at the front and the cursor after them, and after a comment behind them. A comment
needs a blank before it. Tabs count as blanks only if `tabs` says so. -/
def skipToLineEnd? (c : Cursor) (tabs : Bool) : Option (List Char × Cursor) :=
  let blanks := c.rest.takeWhile fun ch ↦ ch = ' ' || (tabs && ch = '\t')
  let c := c.skipBlanks blanks.length
  if c.sees (· = '#') then
    if blanks.isEmpty then none else some (blanks, c.skipComment)
  else some (blanks, c)

/-- Whether a line of three times the same mark begins here, as between documents. -/
def seesMarker (c : Cursor) (mark : Char) : Bool :=
  c.column = 0 && c.rest.take 3 = [mark, mark, mark] && isWordEnd (c.rest.drop 3)

/-- Whether a line between documents begins here. -/
def seesDocumentEdge (c : Cursor) : Bool := c.seesMarker '-' || c.seesMarker '.'

end Cursor

end Tokenomics.Yaml
