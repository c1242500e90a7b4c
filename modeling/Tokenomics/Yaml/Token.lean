import Tokenomics.Text.CodePoint
import Tokenomics.Yaml.Scalar

/-!
# Tokens of YAML

`Token.scan?` cuts a YAML text into tokens. The depth of lines becomes tokens of its own: a block
starts where the column grows and ends where it shrinks again. What will turn out to be a key is
known only at the colon behind it, so that its token, and that of a block which it begins, are put
in front of it afterwards.
-/

namespace Tokenomics.Yaml

/-- A token. -/
inductive Token where
  | version
  /-- From here on a handle stands for the beginning of tags. -/
  | tagHandle (handle start : String)
  | documentStart
  | documentEnd
  | blockListStart
  | blockRecordStart
  | blockEnd
  | flowListStart
  | flowListEnd
  | flowRecordStart
  | flowRecordEnd
  | blockItem
  | flowItem
  | key
  | value
  | alias (name : String)
  | anchor (name : String)
  | tag (handle suffix : String)
  /-- A scalar, and whether it stands without quotes. -/
  | scalar (isPlain : Bool) (text : String)
deriving DecidableEq, Inhabited

/-- A column to go back to when the lines get less deep, and whether a block ends then. -/
structure Indent where
  column : Int
  isBlock : Bool

/-- Where a key may have begun. -/
structure KeyStart where
  /-- Whether it may still turn out to be a key. -/
  isPossible : Bool
  /-- Whether nothing else is allowed there. -/
  isRequired : Bool
  /-- How many tokens stand before it. -/
  token : Nat
  place : Cursor

/-- How far a text has been cut. -/
structure Scanner where
  cursor : Cursor
  tokens : Array Token
  /-- Where the last token begins if it is an anchor or a tag. -/
  property : Option Nat
  /-- Whether a key may begin here. -/
  allowsKey : Bool
  /-- The last place where a key may have begun, for each bracket around the cursor and for the
  text outside of them, the innermost one first. -/
  keys : List KeyStart
  /-- The column of the lines of the block, below zero outside of all blocks. -/
  indent : Int
  /-- The columns of the blocks around it, the innermost one first. -/
  indents : List Indent
  /-- How many brackets are open. -/
  flowLevel : Nat
  /-- Where a colon needs no blank behind it, after something in quotes or brackets. -/
  adjacent : Nat
  /-- Whether a record in braces, or a key with a mark, has been begun inside brackets. -/
  hasRecord : Bool
  /-- For each list in brackets, the innermost one first, whether a pair without braces has begun
  in it. -/
  pairs : List Bool

namespace Scanner

/-- The beginning of a text. -/
def start (cs : List Char) : Scanner where
  cursor := .start cs
  tokens := #[]
  property := none
  allowsKey := true
  keys := [⟨false, false, 0, .start []⟩]
  indent := -1
  indents := []
  flowLevel := 0
  adjacent := 0
  hasRecord := false
  pairs := []

/-- Whether brackets are open. -/
def inFlow (s : Scanner) : Bool := 0 < s.flowLevel

/-- The scanner with one more token. -/
def push (s : Scanner) (t : Token) : Scanner :=
  { s with tokens := s.tokens.push t, property := none }

/-- The scanner with a token in front of the `n`-th one. -/
def insert (s : Scanner) (n : Nat) (t : Token) : Scanner :=
  { s with tokens := s.tokens.insertIdxIfInBounds n t }

/-! ## Depth -/

/-- The scanner when lines of column `column` come: blocks of greater depth end. -/
def closeDeeper (s : Scanner) (column : Int) : List Indent → Scanner
  | [] => { s with indents := [] }
  | i :: rest =>
    if column < s.indent then
      let s := if i.isBlock then s.push .blockEnd else s
      closeDeeper { s with indent := i.column } column rest
    else { s with indents := i :: rest }

/-- The scanner at a line of column `column`, on which nothing depends inside brackets. -/
def unroll (s : Scanner) (column : Int) : Scanner :=
  if s.inFlow then s else s.closeDeeper column s.indents

/-- The scanner at column `column`, where a block starts if that is deeper than before. The token
that starts the block is the `n`-th one. -/
def openBlock (s : Scanner) (column n : Nat) (t : Token) : Scanner :=
  if s.inFlow then s
  else
    let s := match s.indents with
      | i :: rest =>
        if s.indent ≤ column && !i.isBlock then { s with indent := i.column, indents := rest }
        else s
      | [] => s
    if s.indent < (column : Int) then
      { s.insert n t with indents := ⟨s.indent, true⟩ :: s.indents, indent := column }
    else s

/-- The scanner with a depth of one more column that starts no block. -/
def deepen (s : Scanner) : Scanner :=
  if !s.inFlow && s.indents.head?.any (·.isBlock) then
    { s with indents := ⟨s.indent, false⟩ :: s.indents, indent := s.indent + 1 }
  else s

/-- The scanner without the depths that started no block. -/
def flatten (s : Scanner) : List Indent → Scanner
  | [] => { s with indents := [] }
  | i :: rest =>
    if i.isBlock then { s with indents := i :: rest }
    else flatten { s with indent := i.column } rest

/-! ## Keys -/

/-- The scanner in which a key may have begun at the cursor, if one is allowed there. -/
def markKey (s : Scanner) : Scanner :=
  if s.allowsKey then
    let isRequired := !s.inFlow && s.indent = s.cursor.column && s.indents.head?.any (·.isBlock)
    { s with keys := ⟨true, isRequired, s.tokens.size, s.cursor⟩ :: s.keys.tail }
  else s

/-- The scanner in which no key has begun; none if there had to be one. -/
def dropKey? (s : Scanner) : Option Scanner :=
  match s.keys with
  | k :: rest =>
    if k.isPossible && k.isRequired then none
    else some { s with keys := { k with isPossible := false } :: rest }
  | [] => some s

/-- How long a key may be. -/
def keyLimit : Nat := 1024

/-- The scanner in which keys have ended with their line and after so many characters, except inside
brackets. -/
def dropStaleKeys? (s : Scanner) : Option Scanner := do
  if s.inFlow then return s
  else
    let keys ← s.keys.mapM fun k ↦
      if k.isPossible
          && (k.place.line < s.cursor.line || k.place.index + keyLimit < s.cursor.index) then
        if k.isRequired then none else some { k with isPossible := false }
      else some k
    return { s with keys }

/-! ## Blanks between tokens -/

/-- The scanner at the next token, at most `fuel` blanks, line ends and comments further. Tabs must
not stand for the blanks of a block's indentation. -/
def skipToToken? : Nat → Scanner → Option Scanner
  | 0, s => some s
  | fuel + 1, s =>
    let c := s.cursor
    match c.rest with
    | [] => some s
    | ch :: _ =>
      if ch = '\t' && !s.indents.isEmpty && c.isLeading && c.column < s.indent then do
        let (_, c) ← c.skipToLineEnd? true
        if c.isLineEnd then skipToToken? fuel { s with cursor := c } else none
      else if isBlank ch then skipToToken? fuel { s with cursor := c.skipBlanks 1 }
      else if isBreak ch then
        skipToToken? fuel { s with cursor := c.skipBreak, allowsKey := s.allowsKey || !s.inFlow }
      else if ch = '#' then skipToToken? fuel { s with cursor := c.skipComment }
      else some s

/-- The scanner at the next token. -/
def toToken? (s : Scanner) : Option Scanner := s.skipToToken? (s.cursor.rest.length + 1)

/-- The scanner after blanks and a comment on the same line. -/
def skipToLineEnd? (s : Scanner) : Option Scanner :=
  (s.cursor.skipToLineEnd? true).map fun (_, c) ↦ { s with cursor := c }

/-- The scanner after `n` characters. -/
def skip (s : Scanner) (n : Nat) : Scanner := { s with cursor := s.cursor.skip n }

/-! ## Directives and tags -/

/-- Whether a character may stand in the name of a directive or a handle. -/
def isWordChar (c : Char) : Bool := c.isAlphanum || c = '_' || c = '-'

/-- Whether a character may stand in a tag between angle brackets. -/
def isUriChar (c : Char) : Bool :=
  c.isAlphanum || "-#;/?:@&=+$,_.!~*\'()[]%".toList.contains c

/-- Whether a character may stand in a tag. -/
def isTagChar (c : Char) : Bool := isUriChar c && !isFlowMark c && c ≠ '!'

/-- The byte in two hexadecimal digits behind a percent sign. -/
def escapedByte? (cs : List Char) : Option Nat :=
  match cs with
  | '%' :: a :: b :: _ => Text.valueIn? 16 [a, b]
  | _ => none

/-- How many bytes a character has whose first byte is given. -/
def byteCount? (byte : Nat) : Option Nat :=
  if byte < 0x80 then some 1
  else if byte / 32 = 6 then some 2
  else if byte / 16 = 14 then some 3
  else if byte / 8 = 30 then some 4
  else none

/-- The number that `n` more bytes with percent signs give to one read before. -/
def readBytes? : Nat → Nat → Cursor → Option (Nat × Cursor)
  | 0, code, c => some (code, c)
  | n + 1, code, c => do
    let byte ← escapedByte? c.rest
    if byte / 64 = 2 then readBytes? n (code * 256 + byte) (c.skip 3) else none

/-- The character in bytes with percent signs. -/
def readUriEscape? (c : Cursor) : Option (Char × Cursor) := do
  let byte ← escapedByte? c.rest
  let (code, c) ← readBytes? ((← byteCount? byte) - 1) byte (c.skip 3)
  return (← Text.ofCodePoint? code, c)

/-- The characters of a tag up to one that may not stand there. -/
def readUri? (isChar : Char → Bool) : Nat → Cursor → Option (List Char × Cursor)
  | 0, _ => none
  | fuel + 1, c =>
    match c.rest with
    | '%' :: _ => do
      let (e, c) ← readUriEscape? c
      let (tail, c) ← readUri? isChar fuel c
      return (e :: tail, c)
    | ch :: _ =>
      if isChar ch then do
        let (tail, c) ← readUri? isChar fuel (c.skip 1)
        return (ch :: tail, c)
      else some ([], c)
    | [] => some ([], c)

/-- A handle: an exclamation mark, or a word between two of them. In front of other tags only its
beginning may stand there. -/
def readHandle? (isDeclared : Bool) (c : Cursor) : Option (List Char × Cursor) :=
  if !c.sees (· = '!') then none
  else
    let (word, c) := (c.skip 1).span isWordChar
    if c.sees (· = '!') then some ('!' :: word ++ ['!'], c.skip 1)
    else if isDeclared && !word.isEmpty then none
    else some ('!' :: word, c)

/-- The tag in angle brackets. -/
def readVerbatimTag? (c : Cursor) : Option (Token × Cursor) := do
  let (uri, c) ← readUri? isUriChar (c.rest.length + 1) (c.skip 2)
  if c.sees (· = '>') then return (.tag "" (String.ofList uri), c.skip 1) else none

/-- The tag that begins with a handle. -/
def readShortTag? (c : Cursor) : Option (Token × Cursor) := do
  let (handle, c) ← readHandle? false c
  let (suffix, c) ← readUri? isTagChar (c.rest.length + 1) c
  if 2 ≤ handle.length && handle.getLast? = some '!' then
    if suffix.isEmpty then none
    else return (.tag (String.ofList handle) (String.ofList suffix), c)
  else
    let suffix := handle.drop 1 ++ suffix
    if suffix.isEmpty then return (.tag "" "!", c)
    else return (.tag "!" (String.ofList suffix), c)

/-- The tag at the cursor. -/
def readTag? (inFlow : Bool) (c : Cursor) : Option (Token × Cursor) := do
  let (t, c) ← if (c.rest.drop 1).head? = some '<' then readVerbatimTag? c else readShortTag? c
  if Cursor.isWordEnd c.rest || (inFlow && c.sees isFlowMark) then return (t, c) else none

/-- The name of an anchor behind its mark. -/
def readAnchor? (c : Cursor) : Option (String × Cursor) :=
  let (name, c) := (c.skip 1).span fun ch ↦
    !isBlank ch && !isBreak ch && !isFlowMark ch && ch ≠ '\ufeff'
  if name.isEmpty then none else some (String.ofList name, c)

/-- The rest of a version behind the blanks before it: two numbers with a point between them. -/
def readVersion? (c : Cursor) : Option (Token × Cursor) :=
  let (major, c) := c.span Char.isDigit
  let (minor, d) := (c.skip 1).span Char.isDigit
  if major.isEmpty || 9 < major.length || !c.sees (· = '.') || minor.isEmpty || 9 < minor.length
  then none
  else some (.version, d)

/-- The rest of the declaration of a handle behind the blanks before it. -/
def readTagHandle? (c : Cursor) : Option (Token × Cursor) := do
  let (handle, c) ← readHandle? true c
  let c := c.skipBlanks (c.rest.takeWhile isBlank).length
  let (first, c) ← if c.sees (· = '!') then some (['!'], c.skip 1)
    else if c.sees isTagChar then some ([], c)
    else none
  let (uri, c) ← readUri? isUriChar (c.rest.length + 1) c
  if Cursor.isWordEnd c.rest then
    return (.tagHandle (String.ofList handle) (String.ofList (first ++ uri)), c)
  else none

/-- The scanner after a directive. One of an unknown name does nothing. -/
def readDirective? (s : Scanner) : Option Scanner := do
  let s ← (s.unroll (-1)).dropKey?
  let (name, c) := (s.cursor.skip 1).span isWordChar
  if name.isEmpty || !Cursor.isWordEnd c.rest then none
  else
    let body := c.skipBlanks (c.rest.takeWhile isBlank).length
    let (t, c) ← if name = "YAML".toList then readVersion? body
      else if name = "TAG".toList then readTagHandle? body
      else some (.tagHandle "" "", c.skipComment)
    let (_, c) ← c.skipToLineEnd? true
    if c.isLineEnd then return { s.push t with cursor := c.skipBreak, allowsKey := false } else none

/-- The scanner after a line between documents. -/
def readEdge? (s : Scanner) (t : Token) : Option Scanner := do
  let s ← (s.unroll (-1)).dropKey?
  return { (s.skip 3).push t with allowsKey := false }

/-! ## Brackets -/

/-- How many brackets may be open. -/
def flowLimit : Nat := 255

/-- The scanner after an opening bracket. -/
def openFlow? (s : Scanner) (t : Token) : Option Scanner := do
  let s := s.markKey.deepen
  if s.flowLevel = flowLimit then none
  else
    let s := { s with
      keys := ⟨false, false, 0, .start []⟩ :: s.keys
      flowLevel := s.flowLevel + 1
      allowsKey := true
      hasRecord := s.hasRecord || t = Token.flowRecordStart
      pairs := if t = Token.flowRecordStart then s.pairs else false :: s.pairs }
    return (← (s.skip 1).skipToLineEnd?).push t

/-- The scanner in which a pair without braces ends, if one has begun in the list. -/
def endPair (s : Scanner) : Scanner :=
  match s.pairs with
  | true :: rest => { s.push .flowRecordEnd with hasRecord := false, pairs := false :: rest }
  | _ => s

/-- The scanner after a closing bracket. -/
def closeFlow? (s : Scanner) (t : Token) : Option Scanner := do
  let s ← s.dropKey?
  let s := if s.inFlow then { s with flowLevel := s.flowLevel - 1, keys := s.keys.tail } else s
  let s := { s with allowsKey := false }
  let s := if t = Token.flowListEnd then { s.endPair with pairs := s.pairs.tail } else s
  let s ← (s.skip 1).skipToLineEnd?
  let s := if s.inFlow then { s with adjacent := s.cursor.index } else s
  return s.push t

/-- The scanner after a comma between brackets. -/
def readFlowItem? (s : Scanner) : Option Scanner := do
  let s := { (← s.dropKey?) with allowsKey := true }
  return (← (s.endPair.skip 1).skipToLineEnd?).push .flowItem

/-! ## Items, keys and values -/

/-- The scanner after the dash before an item of a block. -/
def readBlockItem? (s : Scanner) : Option Scanner := do
  let column := s.cursor.column
  if s.inFlow || !s.allowsKey then none
  else if column = 0 && s.property = some 0 && -1 < s.indent then none
  else
    let s := (s.skip 1).openBlock column s.tokens.size .blockListStart
    let (blanks, c) ← s.cursor.skipToLineEnd? true
    if blanks.contains '\t' && c.sees (· = '-') && Cursor.isWordEnd (c.rest.drop 1) then none
    else
      let (_, c) ← c.skipToLineEnd? false
      let s := { s with cursor := c }
      let s := if c.sees fun ch ↦ isBreak ch || isFlowMark ch then s.deepen else s
      return { (← s.dropKey?).push .blockItem with allowsKey := true }

/-- The scanner after blanks, comments and line ends, but not tabs; none when there are none. -/
def skipSpaces? : Nat → Bool → Scanner → Option Scanner
  | 0, _, _ => none
  | fuel + 1, found, s =>
    let c := s.cursor
    match c.rest with
    | ' ' :: _ => skipSpaces? fuel true { s with cursor := c.skipBlanks 1 }
    | '#' :: _ => skipSpaces? fuel found { s with cursor := c.skipComment }
    | ch :: _ =>
      if isBreak ch then
        skipSpaces? fuel true
          { s with cursor := c.skipBreak, allowsKey := s.allowsKey || !s.inFlow }
      else if found then some s else none
    | [] => if found then some s else none

/-- The scanner after the question mark before a key. -/
def readKey? (s : Scanner) : Option Scanner := do
  let column := s.cursor.column
  if !s.inFlow && !s.allowsKey then none
  else
    let s := if s.inFlow then { s with hasRecord := true }
      else s.openBlock column s.tokens.size .blockRecordStart
    let s := { (← s.dropKey?) with allowsKey := !s.inFlow }
    let s ← (s.skip 1).skipSpaces? (s.cursor.rest.length + 1) false
    if s.cursor.sees (· = '\t') then none else return s.push .key

/-- The scanner with the tokens that a key and its record need in front of it, the colon behind the
key having been passed. -/
def closeKey? (s : Scanner) (k : KeyStart) (line : Nat) (isPair : Bool) : Option Scanner :=
  if isPair && k.place.line < line then none
  else
    let s := s.insert k.token .key
    let s := if isPair then s.insert k.token .flowRecordStart else s
    let s := (s.openBlock k.place.column k.token .blockRecordStart).deepen
    some { s with keys := { k with isPossible := false } :: s.keys.tail, allowsKey := false }

/-- The scanner with the tokens of a record without a key before the colon. -/
def openValue? (s : Scanner) (column : Nat) (isPair : Bool) : Option Scanner :=
  let s := if isPair then s.push .flowRecordStart else s
  if s.inFlow then some { s.deepen with allowsKey := false }
  else if !s.allowsKey then none
  else some { (s.openBlock column s.tokens.size .blockRecordStart).deepen with allowsKey := true }

/-- The scanner after the colon before a value. -/
def readValue? (s : Scanner) : Option Scanner := do
  let c := s.cursor
  let isPair := !s.pairs.isEmpty && !s.hasRecord
  let s := if isPair then { s with pairs := true :: s.pairs.tail } else s
  let s := s.skip 1
  let s ← if s.cursor.sees (· = '\t') then do
      let (blanks, d) ← s.cursor.skipToLineEnd? true
      if !blanks.contains ' ' && d.sees (fun ch ↦ ch = '-' || isWordChar ch) then none
      else some { s with cursor := d }
    else some s
  let s ← match s.keys with
    | k :: _ => if k.isPossible then s.closeKey? k c.line isPair else s.openValue? c.column isPair
    | [] => none
  return s.push .value

/-! ## Scalars -/

/-- The scanner after an anchor, an alias or a tag, whose token is made by `read`. -/
def readProperty? (s : Scanner) (read : Cursor → Option (Token × Cursor)) : Option Scanner := do
  let column := s.cursor.column
  let (t, c) ← read s.cursor
  return { s.markKey.push t with cursor := c, allowsKey := false, property := some column }

/-- The scanner after an alias. -/
def readAlias? (s : Scanner) : Option Scanner := do
  let s ← s.readProperty? fun c ↦ (readAnchor? c).map fun (name, c) ↦ (.alias name, c)
  return { s with property := none }

/-- The scanner after a scalar in quotes. -/
def readQuoted? (s : Scanner) (quote : Char) : Option Scanner := do
  let (text, c) ← Yaml.readQuoted? quote s.indent s.inFlow s.cursor
  let s := s.markKey
  let s ← { s with cursor := c, allowsKey := false : Scanner }.toToken?
  return { s.push (.scalar false text) with adjacent := s.cursor.index }

/-- The scanner after a block of lines. -/
def readBlock? (s : Scanner) (literal : Bool) : Option Scanner := do
  let s := s.markKey
  let s := { s.flatten s.indents with allowsKey := true }
  let (text, c) ← Yaml.readBlock? literal s.indent s.cursor
  return { s.push (.scalar false text) with cursor := c }

/-- The scanner after a scalar without quotes. -/
def readPlain? (s : Scanner) : Option Scanner := do
  let s := s.markKey
  let s := s.flatten s.indents
  let (text, c) ← Yaml.readPlain? s.indent s.inFlow s.cursor
  return { s.push (.scalar true text) with cursor := c, allowsKey := c.isLeading }

/-! ## All tokens -/

/-- The scanner after the token at the cursor, which is not at the end of the text. -/
def readToken? (s : Scanner) : Option Scanner := do
  let c := s.cursor
  let next := c.rest.drop 1
  let isWord := Cursor.isWordEnd next
  if c.column = 0 && c.sees (· = '%') then s.readDirective?
  else if c.seesMarker '-' then s.readEdge? .documentStart
  else if c.seesMarker '.' then
    let s ← (← s.readEdge? .documentEnd).skipToLineEnd?
    if s.cursor.isLineEnd then return s else none
  else if c.column < s.indent then none
  else match ← c.rest.head? with
    | '[' => s.openFlow? .flowListStart
    | '\x7b' => s.openFlow? .flowRecordStart
    | ']' => s.closeFlow? .flowListEnd
    | '\x7d' => s.closeFlow? .flowRecordEnd
    | ',' => s.readFlowItem?
    | '-' => if isWord then s.readBlockItem? else s.readPlain?
    | '?' => if isWord then s.readKey? else s.readPlain?
    | ':' =>
      if isWord || (s.inFlow && (next.head?.any isFlowMark || c.index = s.adjacent)) then
        s.readValue?
      else s.readPlain?
    | '*' => s.readAlias?
    | '&' => s.readProperty? fun c ↦ (readAnchor? c).map fun (name, c) ↦ (.anchor name, c)
    | '!' => s.readProperty? (readTag? s.inFlow)
    | '\'' => s.readQuoted? '\''
    | '"' => s.readQuoted? '"'
    | '|' => if s.inFlow then s.readPlain? else s.readBlock? true
    | '>' => if s.inFlow then s.readPlain? else s.readBlock? false
    | '%' | '@' | '\x60' => none
    | _ => s.readPlain?

/-- The tokens when the text has ended. -/
def finish? (s : Scanner) : Option (List Token) :=
  if s.keys.any fun k ↦ k.isPossible && k.isRequired then none
  else some (s.unroll (-1)).tokens.toList

/-- The tokens from here to the end of the text, at most `fuel` of them. -/
def scanFrom? : Nat → Scanner → Option (List Token)
  | 0, _ => none
  | fuel + 1, s => do
    let s ← (← s.toToken?).dropStaleKeys?
    let s := s.unroll s.cursor.column
    if s.cursor.isEnd then s.finish? else scanFrom? fuel (← s.readToken?)

end Scanner

/-- The tokens of a text, which ends at the first character of code zero. -/
def Token.scan? (s : String) : Option (List Token) :=
  let cs := s.toList.takeWhile (· ≠ '\x00')
  Scanner.scanFrom? (cs.length + 1) (.start cs)

end Tokenomics.Yaml
