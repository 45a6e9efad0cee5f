import ApiTypes.Yaml.Cursor
import ApiTypes.Json.Token

/-!
# Texts in YAML

The three ways to write a text: plain words, quoted text, and blocks of lines.  Line ends inside
the first two are folded: one becomes a space, and of several the first is dropped.

* `Folding` — a text under construction, with the blanks and line ends behind its last word.
* `plainText`, `quotedText`, `blockText` — the text at a position, and the position behind it.

Each scan takes at most one step to a character; `steps` bounds them.
-/

namespace ApiTypes.Yaml

/-! ## Folding -/

/-- A text under construction.  `text` and `blanks` hold their latest character first. -/
structure Folding where
  text : List Char := []
  /-- Blanks behind the last word, on its line. -/
  blanks : List Char := []
  /-- The first line end behind the last word. -/
  firstBreak : List Char := []
  /-- The line ends after the first. -/
  moreBreaks : List Char := []
  /-- Whether the last word is on an earlier line. -/
  onNewLine : Bool := false

namespace Folding

/-- Puts what stands between two words into the text. -/
def join (f : Folding) : Folding :=
  if f.onNewLine then
    let between :=
      if f.firstBreak.head? = some '\n' then
        if f.moreBreaks.isEmpty then [' '] else f.moreBreaks
      else f.firstBreak ++ f.moreBreaks
    { text := between.reverse ++ f.text }
  else { text := f.blanks ++ f.text }

/-- A character of a word. -/
def push (f : Folding) (c : Char) : Folding :=
  { f.join with text := c :: f.join.text }

/-- A blank behind a word; blanks at the beginning of a line do not count. -/
def blank (f : Folding) (c : Char) : Folding :=
  if f.onNewLine then f else { f with blanks := c :: f.blanks }

/-- A line end. -/
def lineEnd (f : Folding) (chars : List Char) : Folding :=
  if f.onNewLine then { f with moreBreaks := f.moreBreaks ++ chars }
  else { f with blanks := [], firstBreak := chars, onNewLine := true }

/-- The text so far. -/
def result (f : Folding) : String :=
  String.ofList f.text.reverse

end Folding

/-! ## Plain text -/

/-- Characters that end a plain text inside brackets. -/
def isFlowMark (c : Char) : Bool :=
  c = ',' || c = '[' || c = ']' || c = '\x7b' || c = '\x7d'

/-- Scans plain text.  `fresh` holds at the beginning and behind blanks, where a comment or a
document mark ends the text. -/
def plainSteps (flow : Bool) (indent : Nat) :
    (steps : Nat) → (fresh : Bool) → Cursor → Folding → Option (Folding × Cursor)
  | 0, _, c, f => some (f, c)
  | steps + 1, fresh, c, f =>
    match c.rest with
    | [] => some (f, c)
    | d :: rest =>
      if fresh && (c.atDocumentMark || d = '#') then some (f, c)
      else if isBlank d || isBreak d then gap steps c f
      else if flow && d = ':' &&
          (match rest with
            | e :: _ => isFlowMark e || e = '?'
            | [] => false) then none
      else if (d = ':' && endsWord rest) || (flow && isFlowMark d) then some (f, c)
      else plainSteps flow indent steps false (c.advance 1) (f.push d)
where
  /-- Passes over blanks and line ends; less indentation ends the text. -/
  gap : (steps : Nat) → Cursor → Folding → Option (Folding × Cursor)
    | 0, c, f => some (f, c)
    | steps + 1, c, f =>
      match c.takeBreak with
      | some (chars, c) => gap steps c (f.lineEnd chars)
      | none =>
        match c.rest with
        | d :: _ =>
          if isBlank d then
            if f.onNewLine && d = '\t' && c.column < indent then none
            else gap steps (c.advance 1) (f.blank d)
          else if !flow && c.column < indent then some (f, c)
          else plainSteps flow indent steps true c f
        | [] => some (f, c)

/-- A plain text, the position behind it, and whether lines ended after its last word. -/
def plainText (flow : Bool) (indent : Nat) (c : Cursor) : Option (String × Cursor × Bool) := do
  let (f, c) ← plainSteps flow indent (2 * c.rest.length + 2) true c {}
  return (f.result, c, f.onNewLine)

/-! ## Quoted text -/

/-- The character that a letter stands for behind a backslash. -/
def escapeOf? (c : Char) : Option Char :=
  match c with
  | '0' => some (Char.ofNat 0)
  | 'a' => some (Char.ofNat 0x07)
  | 'b' => some (Char.ofNat 0x08)
  | 't' | '\t' => some '\t'
  | 'n' => some '\n'
  | 'v' => some (Char.ofNat 0x0B)
  | 'f' => some (Char.ofNat 0x0C)
  | 'r' => some '\r'
  | 'e' => some (Char.ofNat 0x1B)
  | ' ' => some ' '
  | '"' => some '"'
  | '/' => some '/'
  | '\\' => some '\\'
  | 'N' => some (Char.ofNat 0x85)
  | '_' => some (Char.ofNat 0xA0)
  | 'L' => some (Char.ofNat 0x2028)
  | 'P' => some (Char.ofNat 0x2029)
  | _ => none

/-- How many digits a code behind a backslash has. -/
def codeLength? (c : Char) : Option Nat :=
  match c with
  | 'x' => some 2
  | 'u' => some 4
  | 'U' => some 8
  | _ => none

/-- The character of a code in base sixteen with exactly so many digits. -/
def codePoint? (count : Nat) (cs : List Char) : Option Char := do
  let digits := cs.take count
  if digits.length < count then none
  let n ← digits.foldlM (fun n c => do
    let d ← Json.hexValue? c
    return 16 * n + d) 0
  if (0xD800 ≤ n && n ≤ 0xDFFF) || n > 0x10FFFF then none else some (Char.ofNat n)

/-- Scans quoted text from behind the opening quote.  `fresh` holds behind blanks, where a document
mark breaks the text. -/
def quotedSteps (quote : Char) :
    (steps : Nat) → (fresh : Bool) → Cursor → Folding → Option (Folding × Cursor)
  | 0, _, _, _ => none
  | steps + 1, fresh, c, f =>
    if fresh && c.atDocumentMark then none
    else match c.rest with
      | [] => none
      | d :: rest =>
        match c.takeBreak with
        | some (chars, c) => quotedSteps quote steps true c (f.lineEnd chars)
        | none =>
          if isBlank d then quotedSteps quote steps true (c.advance 1) (f.blank d)
          else if d = quote then
            match quote, rest with
            | '\'', '\'' :: _ => quotedSteps quote steps false (c.advance 2) (f.push '\'')
            | _, _ => some (f.join, c.advance 1)
          else if quote = '"' && d = '\\' then
            match (c.advance 1).takeBreak with
            | some (_, c) =>
              quotedSteps quote steps true c { f.join with onNewLine := true }
            | none =>
              match rest with
              | [] => none
              | e :: digits =>
                match codeLength? e with
                | some count =>
                  match codePoint? count digits with
                  | some x => quotedSteps quote steps false (c.advance (2 + count)) (f.push x)
                  | none => none
                | none =>
                  match escapeOf? e with
                  | some x => quotedSteps quote steps false (c.advance 2) (f.push x)
                  | none => none
          else quotedSteps quote steps false (c.advance 1) (f.push d)

/-- A quoted text from its opening quote on, and the position behind it. -/
def quotedText (quote : Char) (c : Cursor) : Option (String × Cursor) := do
  let (f, c) ← quotedSteps quote (c.rest.length + 1) true (c.advance 1) {}
  return (f.result, c)

/-! ## Blocks of lines -/

/-- What happens to the line ends at the end of a block. -/
inductive Chomping where
  | strip
  | clip
  | keep
  deriving DecidableEq

/-- What the first line of a block says: chomping, and the indentation if it is given. -/
def blockHeader (c : Cursor) : Option (Chomping × Nat × Cursor) :=
  let chomping : Char → Option Chomping := fun d =>
    if d = '+' then some .keep else if d = '-' then some .strip else none
  match c.rest with
  | d :: e :: _ =>
    match chomping d with
    | some how =>
      if e = '0' then none
      else if e.isDigit then some (how, Text.digitValue e, c.advance 2)
      else some (how, 0, c.advance 1)
    | none =>
      if d = '0' then none
      else if d.isDigit then
        match chomping e with
        | some how => some (how, Text.digitValue d, c.advance 2)
        | none => some (.clip, Text.digitValue d, c.advance 1)
      else some (.clip, 0, c)
  | [d] =>
    match chomping d with
    | some how => some (how, 0, c.advance 1)
    | none => if d.isDigit && d ≠ '0' then some (.clip, Text.digitValue d, c.advance 1)
        else some (.clip, 0, c)
  | [] => some (.clip, 0, c)

/-- Passes over the empty lines and the indentation before a line of a block.  While the
indentation is not known yet, the deepest one that is met is noted. -/
def blockBreaks (indent : Nat) :
    (steps : Nat) → Cursor → (deepest : Nat) → (breaks : List Char) →
      Option (Cursor × Nat × List Char)
  | 0, c, deepest, breaks => some (c, deepest, breaks)
  | steps + 1, c, deepest, breaks =>
    let spaces := (c.rest.takeWhile (· = ' ')).length
    let count := if indent = 0 then spaces else min spaces (indent - c.column)
    let c := c.advance count
    let deepest := max deepest c.column
    if (indent = 0 || c.column < indent) && c.rest.head? = some '\t' then none
    else match c.takeBreak with
      | some (chars, c) => blockBreaks indent steps c deepest (breaks ++ chars)
      | none => some (c, deepest, breaks)

/-- Reads the lines of a block. -/
def blockLines (literal : Bool) (indent : Nat) :
    (steps : Nat) → Cursor → (text firstBreak moreBreaks : List Char) → (afterBlank : Bool) →
      Option (Cursor × List Char × List Char × List Char)
  | 0, c, text, firstBreak, moreBreaks, _ => some (c, text, firstBreak, moreBreaks)
  | steps + 1, c, text, firstBreak, moreBreaks, afterBlank =>
    match c.rest with
    | [] => some (c, text, firstBreak, moreBreaks)
    | d :: _ =>
      if c.column ≠ indent then some (c, text, firstBreak, moreBreaks)
      else
        let onBlank := isBlank d
        let joint :=
          if !literal && firstBreak.head? = some '\n' && !afterBlank && !onBlank then
            if moreBreaks.isEmpty then [' '] else []
          else firstBreak
        let line := c.rest.takeWhile fun e => !isBreak e
        let text := text ++ joint ++ moreBreaks ++ line
        let c := c.advance line.length
        match c.takeBreak with
        | none => some (c, text, [], [])
        | some (chars, c) =>
          match blockBreaks indent (c.rest.length + 1) c 0 [] with
          | none => none
          | some (c, _, more) => blockLines literal indent steps c text chars more onBlank

/-- A block of lines from its mark on, and the position behind it.  `outer` is the indentation
around the block. -/
def blockText (literal : Bool) (outer : Int) (c : Cursor) : Option (String × Cursor) := do
  let (chomping, increment, c) ← blockHeader (c.advance 1)
  let c := c.advanceWhile isBlank
  let c := if c.rest.head? = some '#' then c.advanceWhile fun d => !isBreak d else c
  let c ← match c.rest with
    | [] => some c
    | _ => (c.takeBreak).map (·.2)
  let given := if increment = 0 then 0 else outer.toNat + increment
  let (c, deepest, breaks) ← blockBreaks given (c.rest.length + 1) c 0 []
  let indent := if given = 0 then max (max deepest (outer + 1).toNat) 1 else given
  let (c, text, firstBreak, moreBreaks) ←
    blockLines literal indent (c.rest.length + 1) c [] [] breaks false
  let text := if chomping = .strip then text else text ++ firstBreak
  let text := if chomping = .keep then text ++ moreBreaks else text
  return (String.ofList text, c)

end ApiTypes.Yaml
