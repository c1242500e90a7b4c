import Tokenomics.Text.CodePoint
import Tokenomics.Yaml.Cursor

/-!
# Scalars of YAML

The texts of scalars in quotes, without quotes, and in blocks of lines. Outside blocks a line end
inside a scalar stands for a space, and further empty lines for line ends. `indent` is always the
column that the lines of the surrounding block have.
-/

namespace Tokenomics.Yaml

/-! ## Folding lines -/

/-- Blanks and line ends between two parts of a scalar: the blanks while no line has ended, whether
the line end counts that ended the first line, and how many more have come. -/
structure Gap where
  blanks : List Char
  isBroken : Bool
  isCounted : Bool
  more : Nat

/-- Nothing between two parts. -/
def Gap.none : Gap := ⟨[], false, false, 0⟩

/-- One more blank in a gap; at the beginning of a line blanks do not count. -/
def Gap.addBlank (g : Gap) (c : Char) : Gap :=
  if g.isBroken then g else { g with blanks := g.blanks ++ [c] }

/-- One more line end in a gap. -/
def Gap.addBreak (g : Gap) : Gap :=
  if g.isBroken then { g with more := g.more + 1 } else ⟨[], true, true, 0⟩

/-- The characters that a gap stands for. -/
def Gap.chars (g : Gap) : List Char :=
  if !g.isBroken then g.blanks
  else if g.isCounted && g.more = 0 then [' ']
  else List.replicate g.more '\n'

/-! ## In quotes -/

/-- The character that a letter stands for after a backslash. -/
def escaped? : Char → Option Char
  | '0' => some '\x00'
  | 'a' => some '\x07'
  | 'b' => some '\x08'
  | 't' | '\t' => some '\t'
  | 'n' => some '\n'
  | 'v' => some '\x0b'
  | 'f' => some '\x0c'
  | 'r' => some '\r'
  | 'e' => some '\x1b'
  | ' ' => some ' '
  | '"' => some '"'
  | '/' => some '/'
  | '\\' => some '\\'
  | 'N' => some '\x85'
  | '_' => some '\xa0'
  | 'L' => some '\u2028'
  | 'P' => some '\u2029'
  | _ => none

/-- How many hexadecimal digits follow a letter after a backslash. -/
def codeLength? : Char → Option Nat
  | 'x' => some 2
  | 'u' => some 4
  | 'U' => some 8
  | _ => none

/-- The character of an escape, the cursor standing at its backslash, and the cursor after it. -/
def readEscape? (c : Cursor) : Option (Char × Cursor) := do
  let letter ← (c.rest.drop 1).head?
  match codeLength? letter with
  | some n =>
    let digits := (c.rest.drop 2).take n
    if digits.length < n then none
    else return (← Text.ofCodePoint? (← Text.valueIn? 16 digits), c.skip (2 + n))
  | none => return (← escaped? letter, c.skip 2)

/-- The characters up to the next blank, line end or closing quote, and whether the last line end
was escaped. `fuel` bounds the number of steps; one for each character is enough. -/
def readRun (quote : Char) : Nat → Cursor → Option (List Char × Bool × Cursor)
  | 0, _ => none
  | fuel + 1, c =>
    match c.rest with
    | [] => some ([], false, c)
    | ch :: rest =>
      if isBlank ch || isBreak ch then some ([], false, c)
      else if ch = '\'' && quote = '\'' && rest.head? = some '\'' then do
        let (run, broken, c) ← readRun quote fuel (c.skip 2)
        return ('\'' :: run, broken, c)
      else if ch = quote then some ([], false, c)
      else if ch = '\\' && quote = '"' then
        if rest.head?.any isBreak then some ([], true, (c.skip 1).skipBreak)
        else do
          let (e, c) ← readEscape? c
          let (run, broken, c) ← readRun quote fuel c
          return (e :: run, broken, c)
      else do
        let (run, broken, c) ← readRun quote fuel (c.skip 1)
        return (ch :: run, broken, c)

/-- The gap at the cursor, added to one that has begun, and the cursor after it. Tabs must not stand
for the blanks of the indentation. -/
def readGap (indent : Int) : Nat → Gap → Cursor → Option (Gap × Cursor)
  | 0, _, _ => none
  | fuel + 1, g, c =>
    match c.rest with
    | ch :: _ =>
      if isBlank ch then
        if g.isBroken && ch = '\t' && c.column < indent then none
        else readGap indent fuel (g.addBlank ch) (c.skipBlanks 1)
      else if isBreak ch then readGap indent fuel g.addBreak c.skipBreak
      else some (g, c)
    | [] => some (g, c)

/-- The characters up to the closing quote, and the cursor at that quote. -/
def readQuotedFrom (quote : Char) (indent : Int) : Nat → Cursor → Option (List Char × Cursor)
  | 0, _ => none
  | fuel + 1, c => do
    if c.seesDocumentEdge || c.isEnd || c.column < indent then none
    else
      let (run, broken, c) ← readRun quote (c.rest.length + 1) c
      if c.sees (· = quote) then return (run, c)
      else
        let (g, c) ← readGap indent (c.rest.length + 1) { Gap.none with isBroken := broken } c
        let (tail, c) ← readQuotedFrom quote indent fuel c
        return (run ++ g.chars ++ tail, c)

/-- A text in quotes, and the cursor after it and after blanks and a comment behind it. On the same
line only a colon may follow it, and inside brackets what may stand there. -/
def readQuoted? (quote : Char) (indent : Int) (inFlow : Bool) (c : Cursor) :
    Option (String × Cursor) := do
  let (cs, stop) ← readQuotedFrom quote indent (c.rest.length + 1) (c.skip 1)
  let (_, stop) ← (stop.skip 1).skipToLineEnd? true
  let isColonKey := stop.sees (· = ':') && (inFlow || stop.line = c.line)
  let isItem := inFlow && stop.sees fun ch ↦ ch = ',' || ch = ']' || ch = '\x7d'
  if stop.isLineEnd || isColonKey || isItem then return (String.ofList cs, stop) else none

/-! ## Without quotes -/

/-- Whether a scalar without quotes may go on with the first of some characters. -/
def goesOn (inFlow : Bool) : List Char → Bool
  | [] => false
  | ch :: rest =>
    if isBlank ch || isBreak ch then false
    else if ch = ':' && (Cursor.isWordEnd rest || (inFlow && rest.head?.any isFlowMark)) then false
    else !(inFlow && isFlowMark ch)

/-- How many of the characters at the front belong to a scalar without quotes. -/
def plainLength (inFlow : Bool) : List Char → Nat
  | [] => 0
  | ch :: rest => if goesOn inFlow (ch :: rest) then plainLength inFlow rest + 1 else 0

/-- The gap at the cursor, added to one that has begun, and the cursor after it. A line that a tab
indents must hold nothing. -/
def readPlainGap (indent : Int) : Nat → Gap → Cursor → Option (Gap × Cursor)
  | 0, _, _ => none
  | fuel + 1, g, c =>
    match c.rest with
    | ch :: _ =>
      if isBlank ch then
        if c.isLeading && ch = '\t' && c.column < indent then do
          let (_, c) ← c.skipToLineEnd? true
          if c.isLineEnd then readPlainGap indent fuel g c else none
        else readPlainGap indent fuel (g.addBlank ch) (c.skipBlanks 1)
      else if isBreak ch then readPlainGap indent fuel g.addBreak c.skipBreak
      else some (g, c)
    | [] => some (g, c)

/-- The characters of a scalar without quotes behind a gap, and the cursor after it and after the
blanks and line ends behind it. -/
def readPlainFrom (indent : Int) (inFlow : Bool) : Nat → Gap → Cursor →
    Option (List Char × Cursor)
  | 0, _, _ => none
  | fuel + 1, g, c => do
    if c.seesDocumentEdge || c.sees (· = '#') then return ([], c)
    else if inFlow && c.sees (· = '-') && (c.rest.drop 1).head?.any isFlowMark then none
    else
      let n := plainLength inFlow c.rest
      let (run, g, c) := if n = 0 then ([], g, c)
        else (g.chars ++ c.rest.take n, Gap.none, c.skip n)
      if !c.sees fun ch ↦ isBlank ch || isBreak ch then return (run, c)
      else
        let (g, c) ← readPlainGap indent (c.rest.length + 1) g c
        if !inFlow && c.column < indent then return (run, c)
        else
          let (tail, c) ← readPlainFrom indent inFlow fuel g c
          return (run ++ tail, c)

/-- A scalar without quotes, which is not empty, and the cursor after it. Its lines stand further
right than those of the surrounding block. -/
def readPlain? (indent : Int) (inFlow : Bool) (c : Cursor) : Option (String × Cursor) := do
  if inFlow && c.column < indent + 1 then none
  else
    let (cs, stop) ← readPlainFrom (indent + 1) inFlow (c.rest.length + 1) Gap.none c
    if cs.isEmpty then none else return (String.ofList cs, stop)

/-! ## Blocks of lines -/

/-- What becomes of the line ends at the end of a block. -/
inductive Chomping where
  | strip
  | clip
  | keep
deriving DecidableEq

/-- The way of chomping that a mark asks for. -/
def chomping? : Char → Option Chomping
  | '+' => some .keep
  | '-' => some .strip
  | _ => none

/-- The number in a digit, which must not be zero. -/
def increment? (ch : Char) : Option Nat :=
  if ch.isDigit && ch ≠ '0' then some (ch.toNat - '0'.toNat) else none

/-- How the line ends of a block are chomped and how far it is indented more than the surrounding
block, zero leaving that open; and the cursor after the marks that say so. -/
def readBlockMarks? (c : Cursor) : Option (Chomping × Nat × Cursor) :=
  match c.rest with
  | m :: d :: _ =>
    match chomping? m, chomping? d with
    | some chomping, _ =>
      if d.isDigit then (increment? d).map (chomping, ·, c.skip 2)
      else some (chomping, 0, c.skip 1)
    | none, some chomping =>
      if m.isDigit then (increment? m).map (chomping, ·, c.skip 2)
      else some (.clip, 0, c)
    | none, none =>
      if m.isDigit then (increment? m).map (.clip, ·, c.skip 1) else some (.clip, 0, c)
  | [m] =>
    match chomping? m with
    | some chomping => some (chomping, 0, c.skip 1)
    | none => if m.isDigit then (increment? m).map (.clip, ·, c.skip 1) else some (.clip, 0, c)
  | [] => some (.clip, 0, c)

/-- The number of empty lines at the cursor and the cursor after them, at the content of the next
line; at most `limit` spaces are indentation. The greatest column comes with them. -/
def skipEmptyLines (limit : Option Nat) : Nat → Nat → Cursor → Nat × Nat × Cursor
  | 0, deepest, c => (0, deepest, c)
  | fuel + 1, deepest, c =>
    let spaces := (c.rest.takeWhile (· = ' ')).length
    let n := match limit with
      | some limit => min spaces (limit - c.column)
      | none => spaces
    let c := c.skipBlanks n
    let deepest := max deepest c.column
    if c.sees isBreak then
      let (lines, deepest, c) := skipEmptyLines limit fuel deepest c.skipBreak
      (lines + 1, deepest, c)
    else (0, deepest, c)

/-- What has been read of a block: its characters, whether the last line has ended, how many empty
lines follow it, and whether it began with a blank. -/
structure BlockProgress where
  chars : List Char
  hasEnded : Bool
  empty : Nat
  wasBlank : Bool

/-- The characters between the last line of a block and the next one. Folded lines are joined by a
space, unless one of them begins with a blank. -/
def BlockProgress.gap (p : BlockProgress) (literal isBlank : Bool) : List Char :=
  if !literal && p.hasEnded && !p.wasBlank && !isBlank then
    if p.empty = 0 then [' '] else List.replicate p.empty '\n'
  else List.replicate (p.empty + if p.hasEnded then 1 else 0) '\n'

/-- The lines of a block that begin at column `depth`, and the cursor after them and after the empty
lines behind them. -/
def readBlockLines (literal : Bool) (depth : Nat) : Nat → BlockProgress → Cursor →
    BlockProgress × Cursor
  | 0, p, c => (p, c)
  | fuel + 1, p, c =>
    if c.column ≠ depth || c.isEnd || (depth = 0 && c.seesMarker '.') then (p, c)
    else
      let blank := c.sees isBlank
      let (line, c) := c.span (!isBreak ·)
      let chars := p.chars ++ p.gap literal blank ++ line
      if c.isEnd then (⟨chars, false, 0, blank⟩, c)
      else
        let (lines, _, c) := skipEmptyLines (some depth) (c.rest.length + 1) 0 c.skipBreak
        readBlockLines literal depth fuel ⟨chars, true, lines, blank⟩ c

/-- The text of a block without content, which is all line ends. -/
def emptyBlock (chomping : Chomping) (hasLine : Bool) (lines : Nat) : List Char :=
  match chomping with
  | .strip => []
  | .clip => if hasLine then ['\n'] else []
  | .keep => if hasLine then List.replicate (max 1 lines) '\n' else []

/-- The line ends at the end of a block's text. -/
def blockEnd (chomping : Chomping) (depth : Nat) (p : BlockProgress) (c : Cursor) : List Char :=
  match chomping with
  | .strip => []
  | _ =>
    let own := if p.hasEnded then 1 else 0
    let final := if c.isEnd && max depth 1 ≤ c.column then 1 else 0
    List.replicate (own + final + if chomping = .keep then p.empty else 0) '\n'

/-- The text of a block of lines, the cursor standing at the mark before it, and the cursor after
it. -/
def readBlock? (literal : Bool) (indent : Int) (c : Cursor) : Option (String × Cursor) := do
  let (chomping, increment, head) ← readBlockMarks? (c.skip 1)
  let (_, head) ← head.skipToLineEnd? true
  let body := if head.sees isBreak then head.skipBreak else head
  if !head.isLineEnd || body.sees (· = '\t') then none
  else
    let given := if 0 ≤ indent then indent.toNat + increment else increment
    let limit := if increment = 0 then none else some given
    let (lines, deepest, start) := skipEmptyLines limit (body.rest.length + 1) 0 body
    let least := if 0 < indent then max 1 (indent + 1).toNat else (indent + 1).toNat
    let depth := if increment = 0 then max deepest least else given
    if start.isEnd then
      return (String.ofList (emptyBlock chomping (c.line < start.line) lines), start)
    else if start.column < depth && indent < start.column then none
    else
      let (p, stop) := readBlockLines literal depth (start.rest.length + 1)
        ⟨[], false, lines, false⟩ start
      return (String.ofList (p.chars ++ blockEnd chomping depth p stop), stop)

end Tokenomics.Yaml
