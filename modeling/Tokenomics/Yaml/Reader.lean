import Tokenomics.Yaml.Token
import Tokenomics.Yaml.Value

/-!
# YAML texts: reading

`Yaml.parse?` reads a text of a single document. Values may be given names by anchors, for aliases
later in the text. A text without any document is an empty record.

A value that its tag refuses, and an alias inside of the value that it names, stand for null; where
a key is expected they are passed over.
-/

namespace Tokenomics.Yaml

/-- A value; none where a tag refuses it. -/
abbrev Node := Option Datum

/-- The value of what has been left out. -/
def Node.empty : Node := some .null

/-! ## Records -/

/-- Keys and values in turn as fields. A value that has no key is left out. -/
def pairsOf : List Node → List (Datum × Datum)
  | [] => []
  | none :: rest => pairsOf rest
  | some k :: d :: rest => (k, d.getD .null) :: pairsOf rest
  | [some _] => []

/-- A key as the name of a field, and whether it is a text. Only texts and whole numbers are
names. -/
def nameOf? : Datum → Option (Bool × String)
  | .text s => some (true, s)
  | .integer n => some (false, toString n)
  | _ => none

/-- The record of some keys and values; none when a key occurs twice. -/
def recordOf? (nodes : List Node) : Option Datum := do
  let pairs := pairsOf nodes
  let names ← pairs.mapM fun (k, _) ↦ nameOf? k
  if names.Nodup then return .record (names.zipWith (fun n p ↦ (n.2, p.2)) pairs) else none

/-- The list of some values. -/
def listOf (nodes : List Node) : Datum := .list (nodes.map (·.getD .null))

/-! ## Anchors and tags -/

/-- What has been read: the tokens that are left, the handle that is declared with what it stands
for, the names given by anchors, each with its place among the values, and these values, as far as
they have ended. -/
structure Progress where
  tokens : List Token
  handle : Option (String × String)
  names : List (String × Nat)
  values : Array Node

/-- Where the value of an anchor is kept, and the tag. -/
structure Properties where
  anchor : Option Nat
  tag : Option Tag

/-- The properties of a value without any. -/
def Properties.none : Properties := ⟨Option.none, Option.none⟩

namespace Progress

/-- The tag of a handle and a suffix. A handle of a word between two marks must be declared. -/
def tagOf? (p : Progress) (handle suffix : String) : Option Tag :=
  match p.handle.filter (·.1 == handle) with
  | some (_, start) => some ⟨start, suffix⟩
  | none =>
    if handle = "!!" then some ⟨coreStart, suffix⟩
    else if 2 ≤ handle.length then none
    else some ⟨handle, suffix⟩

/-- The progress with a name for a value that begins now, and where that value will be kept. -/
def register (p : Progress) (name : String) (tokens : List Token) : Nat × Progress :=
  let n := p.values.size
  (n, { p with tokens, names := (name, n) :: p.names, values := p.values.push none })

/-- The properties before a value: an anchor and a tag in either order, at most one of each. -/
def readProperties? (p : Progress) : Option (Properties × Progress) :=
  match p.tokens with
  | .anchor name :: .tag handle suffix :: rest => do
    let (n, p) := p.register name rest
    return (⟨some n, some (← p.tagOf? handle suffix)⟩, p)
  | .tag handle suffix :: .anchor name :: rest => do
    let (n, p) := p.register name rest
    return (⟨some n, some (← p.tagOf? handle suffix)⟩, p)
  | .anchor name :: rest =>
    let (n, p) := p.register name rest
    some (⟨some n, none⟩, p)
  | .tag handle suffix :: rest => do
    return (⟨none, some (← p.tagOf? handle suffix)⟩, { p with tokens := rest })
  | _ => some (.none, p)

/-- The progress when a value has ended. -/
def keep (p : Progress) (properties : Properties) (d : Node) : Progress :=
  match properties.anchor with
  | some n => { p with values := p.values.setIfInBounds n d }
  | none => p

end Progress

/-! ## Values -/

/-- Whether the next token, if there is one, is among some. -/
def isNext (tokens : List Token) (p : Progress) : Bool := p.tokens.head?.any (tokens.contains ·)

/-- The value of properties behind which nothing stands; there must be some. -/
def readNothing? (properties : Properties) (p : Progress) : Option (Node × Progress) :=
  if properties.anchor.isNone && properties.tag.isNone then none
  else if properties.tag.isNone then some (some (.text ""), p)
  else some (taggedValue? properties.tag "", p)

mutual

/-- The value at the front, and what is left behind it. Blocks may stand there only if `block` says
so, and the items of a list without depth of its own only if `inKey` does. `fuel` bounds the number
of steps, four for each token being enough. -/
def readNode? : Nat → Bool → Bool → Progress → Option (Node × Progress)
  | 0, _, _, _ => none
  | fuel + 1, block, inKey, p =>
    match p.tokens with
    | .alias name :: rest => do
      let n ← p.names.lookup name
      return (p.values[n]?.join, { p with tokens := rest })
    | _ => do
      let (properties, p) ← p.readProperties?
      let (d, p) ← readContent? fuel block inKey properties p
      return (d, p.keep properties d)

/-- The value behind its properties, and what is left behind it. -/
def readContent? : Nat → Bool → Bool → Properties → Progress → Option (Node × Progress)
  | 0, _, _, _, _ => none
  | fuel + 1, block, inKey, properties, p =>
    match p.tokens with
    | .scalar isPlain s :: rest =>
      let d := if isPlain then taggedValue? properties.tag s else some (.text s)
      some (d, { p with tokens := rest })
    | .flowListStart :: rest => do
      let (nodes, p) ← readFlowItems? fuel true { p with tokens := rest }
      return (some (listOf nodes), p)
    | .flowRecordStart :: rest => do
      let (nodes, p) ← readFlowFields? fuel true { p with tokens := rest }
      return (some (← recordOf? nodes), p)
    | t :: rest =>
      if inKey && t = .blockItem then do
        let (nodes, p) ← readItems? fuel true p
        return (some (listOf nodes), p)
      else if block && t = .blockListStart then do
        let (nodes, p) ← readItems? fuel false { p with tokens := rest }
        return (some (listOf nodes), p)
      else if block && t = .blockRecordStart then do
        let (nodes, p) ← readFields? fuel { p with tokens := rest }
        return (some (← recordOf? nodes), p)
      else readNothing? properties p
    | [] => readNothing? properties p

/-- The value at the front, which has been left out if one of `ends` is the next token. -/
def readOptional? (ends : List Token) : Nat → Bool → Bool → Progress → Option (Node × Progress)
  | 0, _, _, _ => none
  | fuel + 1, block, inKey, p =>
    if isNext ends p then some (.empty, p) else readNode? fuel block inKey p

/-- The items of a block list up to its end. A list without depth of its own ends where no further
item comes. -/
def readItems? : Nat → Bool → Progress → Option (List Node × Progress)
  | 0, _, _ => none
  | fuel + 1, inKey, p =>
    match p.tokens with
    | .blockItem :: rest => do
      let ends : List Token := if inKey then [.blockItem, .key, .value, .blockEnd]
        else [.blockItem, .blockEnd]
      let (d, p) ← readOptional? ends fuel true false { p with tokens := rest }
      let (nodes, p) ← readItems? fuel inKey p
      return (d :: nodes, p)
    | t :: rest =>
      if inKey then some ([], p)
      else if t = .blockEnd then some ([], { p with tokens := rest })
      else none
    | [] => if inKey then some ([], p) else none

/-- The keys and values of a block record in turn, up to its end. -/
def readFields? : Nat → Progress → Option (List Node × Progress)
  | 0, _ => none
  | fuel + 1, p =>
    let ends : List Token := [.key, .value, .blockEnd]
    match p.tokens with
    | .blockEnd :: rest => some ([], { p with tokens := rest })
    | t :: rest => do
      let (k, p) ← if t = .key then readOptional? ends fuel true true { p with tokens := rest }
        else if t = .value then some (.empty, p)
        else none
      let (d, p) ← readValue? ends fuel true p
      let (nodes, p) ← readFields? fuel p
      return (k :: d :: nodes, p)
    | [] => none

/-- The value behind a key, which has been left out if there is no mark before it. -/
def readValue? (ends : List Token) : Nat → Bool → Progress → Option (Node × Progress)
  | 0, _, _ => none
  | fuel + 1, block, p =>
    match p.tokens with
    | .value :: rest => readOptional? ends fuel block block { p with tokens := rest }
    | _ => some (.empty, p)

/-- The keys and values of a record in braces in turn, up to the closing one. -/
def readFlowFields? : Nat → Bool → Progress → Option (List Node × Progress)
  | 0, _, _ => none
  | fuel + 1, first, p =>
    match first, p.tokens with
    | _, .flowRecordEnd :: rest | false, .flowItem :: .flowRecordEnd :: rest =>
      some ([], { p with tokens := rest })
    | false, .flowItem :: rest => readFlowField? fuel { p with tokens := rest }
    | true, _ => readFlowField? fuel p
    | false, _ => none

/-- The key and the value at the front, and those that follow them. -/
def readFlowField? : Nat → Progress → Option (List Node × Progress)
  | 0, _ => none
  | fuel + 1, p => do
    let ends : List Token := [.flowItem, .flowRecordEnd]
    let (k, d, p) ← match p.tokens with
      | .key :: rest => do
        let (k, p) ← readOptional? (.value :: ends) fuel false false { p with tokens := rest }
        let (d, p) ← readValue? ends fuel false p
        pure (k, d, p)
      | .value :: _ => do
        let (d, p) ← readValue? ends fuel false p
        pure (Node.empty, d, p)
      | _ => do
        let (k, p) ← readNode? fuel false false p
        pure (k, Node.empty, p)
    let (nodes, p) ← readFlowFields? fuel false p
    return (k :: d :: nodes, p)

/-- The items of a list in brackets up to the closing one. -/
def readFlowItems? : Nat → Bool → Progress → Option (List Node × Progress)
  | 0, _, _ => none
  | fuel + 1, first, p =>
    match first, p.tokens with
    | _, .flowListEnd :: rest | false, .flowItem :: .flowListEnd :: rest =>
      some ([], { p with tokens := rest })
    | false, .flowItem :: rest => readFlowItem? fuel { p with tokens := rest }
    | true, _ => readFlowItem? fuel p
    | false, _ => none

/-- The item at the front, which may be a pair without braces, and those that follow it. -/
def readFlowItem? : Nat → Progress → Option (List Node × Progress)
  | 0, _ => none
  | fuel + 1, p => do
    let (d, p) ← match p.tokens with
      | .key :: rest => readPair? fuel { p with tokens := rest }
      | _ => readNode? fuel false false p
    let (nodes, p) ← readFlowItems? fuel false p
    return (d :: nodes, p)

/-- The record of a single pair. A token that stands in the place of its key is passed over. -/
def readPair? : Nat → Progress → Option (Node × Progress)
  | 0, _ => none
  | fuel + 1, p => do
    let ends : List Token := [.flowItem, .flowListEnd]
    let (k, p) ← if isNext (.value :: ends) p then
        some (.empty, { p with tokens := p.tokens.drop 1 })
      else readNode? fuel false false p
    let (d, p) ← readValue? ends fuel false p
    return (some (← recordOf? [k, d]), p)

end

/-! ## Documents -/

/-- The handle that the directives at the front declare last, and the tokens behind them. A version
may be given once. -/
def readDirectives? (hasVersion : Bool) (handle : Option (String × String)) :
    List Token → Option (Option (String × String) × List Token)
  | .version :: rest => if hasVersion then none else readDirectives? true none rest
  | .tagHandle name start :: rest => readDirectives? hasVersion (some (name, start)) rest
  | tokens => some (handle, tokens)

/-- The value of a document, and the tokens behind it. -/
def readRoot? (handle : Option (String × String)) (tokens : List Token) :
    Option (Datum × List Token) := do
  let (d, p) ← readNode? (4 * tokens.length + 4) true false ⟨tokens, handle, [], #[]⟩
  return (d.getD .null, p.tokens)

/-- The value of a document behind the mark at its start, which may be empty. -/
def readBody? (handle : Option (String × String)) (tokens : List Token) :
    Option (Datum × List Token) :=
  match tokens with
  | [] | .documentEnd :: _ => some (.null, tokens)
  | _ => readRoot? handle tokens

/-- The value of the only document in some tokens. -/
def document? (tokens : List Token) : Option Datum := do
  match tokens.dropWhile (· = .documentEnd) with
  | [] => return .record []
  | tokens =>
    let (handle, rest) ← readDirectives? false none tokens
    let (d, rest) ← match rest with
      | .documentStart :: rest => readBody? handle rest
      | _ => if rest.length < tokens.length then none else readRoot? none tokens
    if rest.all (· = .documentEnd) then return d else none

/-- The data that a text stands for. -/
def parse? (s : String) : Option Datum := do
  let d ← document? (← Token.scan? s)
  if d.isReadable then some d else none

end Tokenomics.Yaml
