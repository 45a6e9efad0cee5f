import ApiTypes.Yaml.Text

/-!
# Tokens of YAML text

The marks and texts of a YAML text, with the beginnings and ends of blocks that its indentation
tells.

* `Token` — a token.
* `Layout` — where a scan stands: open blocks, open brackets, and texts that may turn out to be
  keys when a colon follows.
* `Token.scan` — the tokens of a text, if it can be divided into tokens at all.
-/

namespace ApiTypes.Yaml

/-- A token of YAML text. -/
inductive Token where
  | documentStart
  | documentEnd
  | directive
  | blockSequence
  | blockMapping
  | blockEnd
  | openSequence
  | closeSequence
  | openMapping
  | closeMapping
  | entry
  | separator
  | key
  | value
  | alias (name : String)
  | anchor (name : String)
  | tag (name : String)
  /-- A text without quotes, whose kind is still open. -/
  | plain (text : String)
  /-- A text that is quoted or a block. -/
  | text (text : String)
  deriving DecidableEq

/-- A token that becomes a key if a colon follows it. -/
structure KeyCandidate where
  /-- How many tokens come before it. -/
  place : Nat
  line : Nat
  column : Nat
  index : Nat
  /-- Whether its place in the text allows nothing but a key. -/
  required : Bool

/-- Where a scan stands. -/
structure Layout where
  cursor : Cursor
  tokens : Array Token := #[]
  /-- The column of the innermost open block; none is open at -1. -/
  indent : Int := -1
  /-- The columns of the open blocks around it. -/
  outer : List Int := []
  /-- The key candidates of the open brackets, innermost first, and of the blocks around them. -/
  candidates : List (Option KeyCandidate) := [none]
  /-- Whether a key may stand at this position. -/
  keyAllowed : Bool := true

namespace Layout

/-- How many brackets are open. -/
def flowDepth (s : Layout) : Nat :=
  s.candidates.length - 1

/-- Whether brackets are open. -/
def inFlow (s : Layout) : Bool :=
  s.flowDepth ≠ 0

/-- Adds a token. -/
def emit (s : Layout) (t : Token) : Layout :=
  { s with tokens := s.tokens.push t }

/-- Adds a token and passes over the characters of it. -/
def take (s : Layout) (t : Token) (count : Nat) : Layout :=
  { s with tokens := s.tokens.push t, cursor := s.cursor.advance count }

/-- Strikes key candidates that are too far back: on an earlier line, or more than 1024 characters
away. -/
def dropStale (s : Layout) : Option Layout := do
  let candidates ← s.candidates.mapM fun candidate =>
    match candidate with
    | none => some none
    | some k =>
      if k.line < s.cursor.line || k.index + 1024 < s.cursor.index then
        if k.required then none else some none
      else some (some k)
  return { s with candidates := candidates }

/-- Strikes the innermost key candidate. -/
def dropCandidate (s : Layout) : Option Layout :=
  match s.candidates with
  | some k :: rest => if k.required then none else some { s with candidates := none :: rest }
  | _ => some s

/-- Notes that the next token may be a key. -/
def noteCandidate (s : Layout) : Option Layout :=
  if s.keyAllowed then do
    let s ← s.dropCandidate
    let candidate : KeyCandidate :=
      { place := s.tokens.size, line := s.cursor.line, column := s.cursor.column,
        index := s.cursor.index, required := !s.inFlow && s.indent = s.cursor.column }
    return { s with candidates := some candidate :: s.candidates.tail }
  else some s

/-- Opens a block at a column that lies deeper than the open block; its token goes to the given
place. -/
def openBlock (s : Layout) (column : Nat) (place : Nat) (t : Token) : Layout :=
  if !s.inFlow && s.indent < column then
    { s with indent := column, outer := s.indent :: s.outer, tokens := s.tokens.insertIdx! place t }
  else s

/-- Ends the blocks that lie deeper than a column. -/
def closeBlocks (s : Layout) (column : Int) : Layout :=
  if s.inFlow then s else go s.outer s
where
  /-- Ends blocks while the innermost one lies deeper. -/
  go : List Int → Layout → Layout
    | [], s => s
    | around :: outer, s =>
      if column < s.indent then go outer { s.emit .blockEnd with indent := around, outer := outer }
      else s

/-- Passes over blanks, comments and line ends before a token. -/
def skipBlanks : (steps : Nat) → Layout → Layout
  | 0, s => s
  | steps + 1, s =>
    match s.cursor.takeBreak with
    | some (_, c) =>
      skipBlanks steps { s with cursor := c, keyAllowed := s.keyAllowed || !s.inFlow }
    | none =>
      match s.cursor.rest with
      | c :: _ =>
        if c = ' ' || (c = '\t' && (s.inFlow || !s.keyAllowed)) then
          skipBlanks steps { s with cursor := s.cursor.advance 1 }
        else if c.toNat = 0xFEFF && s.cursor.column = 0 then
          skipBlanks steps { s with cursor := { s.cursor with rest := s.cursor.rest.drop 1 } }
        else if c = '#' then
          skipBlanks steps { s with cursor := s.cursor.advanceWhile fun d => !isBreak d }
        else s
      | [] => s

/-- The mark of a sequence item. -/
def takeEntry (s : Layout) : Option Layout := do
  if !s.inFlow && !s.keyAllowed then none
  let s := s.openBlock s.cursor.column s.tokens.size .blockSequence
  let s ← s.dropCandidate
  return { s with keyAllowed := true }.take .entry 1

/-- The mark of a key. -/
def takeKey (s : Layout) : Option Layout := do
  if !s.inFlow && !s.keyAllowed then none
  let s := s.openBlock s.cursor.column s.tokens.size .blockMapping
  let s ← s.dropCandidate
  return { s with keyAllowed := !s.inFlow }.take .key 1

/-- The mark of a value: what comes before it becomes its key. -/
def takeValue (s : Layout) : Option Layout :=
  match s.candidates with
  | some k :: rest =>
    let s := { s with tokens := s.tokens.insertIdx! k.place .key }
    let s := s.openBlock k.column k.place .blockMapping
    some ({ s with candidates := none :: rest, keyAllowed := false }.take .value 1)
  | _ =>
    if s.inFlow then some ({ s with keyAllowed := false }.take .value 1)
    else if s.keyAllowed then
      let s := s.openBlock s.cursor.column s.tokens.size .blockMapping
      some ({ s with keyAllowed := true }.take .value 1)
    else none

/-- A text that ends at the given position. -/
def takeText (s : Layout) (t : Token) (c : Cursor) (keyAllowed : Bool) : Layout :=
  { s.emit t with cursor := c, keyAllowed := keyAllowed }

/-- Characters of the names of anchors. -/
def isNameChar (c : Char) : Bool :=
  c.isAlphanum || c = '_' || c = '-'

/-- An anchor or an alias: its mark and its name. -/
def takeName (s : Layout) (make : String → Token) : Option Layout := do
  let s ← s.noteCandidate
  let name := (s.cursor.rest.drop 1).takeWhile isNameChar
  let rest := (s.cursor.rest.drop 1).dropWhile isNameChar
  if name.isEmpty then none
  if !endsWord rest && !("?:,]\x7d%@\x60".toList.contains (rest.headD ' ')) then none
  return { s with keyAllowed := false }.take (make (String.ofList name)) (name.length + 1)

/-- A tag: everything up to the next blank. -/
def takeTag (s : Layout) : Option Layout := do
  let s ← s.noteCandidate
  let name := s.cursor.rest.takeWhile fun c =>
    !(isBlank c || isBreak c) && !(s.inFlow && isFlowMark c)
  return { s with keyAllowed := false }.take (.tag (String.ofList name)) name.length

/-- Whether a plain text can begin with a character. -/
def beginsPlain (flow : Bool) (c : Char) (rest : List Char) : Bool :=
  if c = '-' then !(match rest with | d :: _ => isBlank d | [] => false)
  else if c = '?' || c = ':' then !flow && !endsWord rest
  else !(isBlank c || isBreak c) && !("-?:,[]\x7b\x7d#&*!|>'\"%@\x60".toList.contains c)

/-- Takes the next token from a position where one begins. -/
def takeToken (s : Layout) (c : Char) (rest : List Char) : Option Layout := do
  let here := s.cursor
  if here.column = 0 && c = '%' then
    let s := s.closeBlocks (-1)
    let s ← s.dropCandidate
    let c := here.advanceWhile fun d => !isBreak d
    return { s.emit .directive with cursor := c, keyAllowed := false }
  else if here.atDocumentMark then
    let s := s.closeBlocks (-1)
    let s ← s.dropCandidate
    let t := if c = '-' then Token.documentStart else .documentEnd
    return { s with keyAllowed := false }.take t 3
  else if c = '[' || c = '\x7b' then
    let s ← s.noteCandidate
    let t := if c = '[' then Token.openSequence else .openMapping
    return { s with candidates := none :: s.candidates, keyAllowed := true }.take t 1
  else if c = ']' || c = '\x7d' then
    let s ← s.dropCandidate
    let t := if c = ']' then Token.closeSequence else .closeMapping
    let candidates := if s.inFlow then s.candidates.tail else s.candidates
    return { s with candidates := candidates, keyAllowed := false }.take t 1
  else if c = ',' then
    let s ← s.dropCandidate
    return { s with keyAllowed := true }.take .separator 1
  else if c = '-' && endsWord rest then s.takeEntry
  else if c = '?' && (s.inFlow || endsWord rest) then s.takeKey
  else if c = ':' && (s.inFlow || endsWord rest) then s.takeValue
  else if c = '*' then s.takeName .alias
  else if c = '&' then s.takeName .anchor
  else if c = '!' then s.takeTag
  else if (c = '|' || c = '>') && !s.inFlow then
    let s ← s.dropCandidate
    let (text, c) ← blockText (c = '|') s.indent here
    return s.takeText (.text text) c true
  else if c = '\'' || c = '"' then
    let s ← s.noteCandidate
    let (text, c) ← quotedText c here
    return s.takeText (.text text) c false
  else if beginsPlain s.inFlow c rest then
    let s ← s.noteCandidate
    let (text, c, newLine) ← plainText s.inFlow (s.indent + 1).toNat here
    return s.takeText (.plain text) c newLine
  else none

/-- Takes all tokens up to the end of the text. -/
def takeAll : (steps : Nat) → Layout → Option Layout
  | 0, _ => none
  | steps + 1, s => do
    let s ← (s.skipBlanks (s.cursor.rest.length + 1)).dropStale
    let s := s.closeBlocks s.cursor.column
    match s.cursor.rest with
    | [] =>
      let s := s.closeBlocks (-1)
      s.dropCandidate
    | c :: rest => takeAll steps (← s.takeToken c rest)

end Layout

/-- **The tokens of a text.** -/
def Token.scan (cs : List Char) : Option (List Token) := do
  if !cs.all isAllowed then none
  let cs := match cs with
    | c :: rest => if c.toNat = 0xFEFF then rest else cs
    | [] => []
  let s ← Layout.takeAll (cs.length + 1) { cursor := { rest := cs } }
  return s.tokens.toList

end ApiTypes.Yaml
