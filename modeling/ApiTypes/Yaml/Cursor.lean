/-!
# Positions in YAML text

* `Cursor` — the text that is left, and the line and column where it begins.
* `isBreak`, `isBlank`, `isEnd` — line ends, blanks, and what ends a word.
* `Cursor.takeBreak` — one line end, in the form it is kept in.
* `Cursor.atDocumentMark` — the marks `---` and `...` on a line.
-/

namespace ApiTypes.Yaml

/-- A position in a text. -/
structure Cursor where
  rest : List Char
  line : Nat := 0
  column : Nat := 0
  index : Nat := 0

/-- A character that ends a line. -/
def isBreak (c : Char) : Bool :=
  c = '\n' || c = '\r' || c.toNat = 0x85 || c.toNat = 0x2028 || c.toNat = 0x2029

/-- A blank within a line. -/
def isBlank (c : Char) : Bool :=
  c = ' ' || c = '\t'

/-- A blank, a line end, or the end of the text comes next. -/
def endsWord : List Char → Bool
  | [] => true
  | c :: _ => isBlank c || isBreak c

/-- Characters that a text may hold at all. -/
def isAllowed (c : Char) : Bool :=
  let n := c.toNat
  n = 0x09 || n = 0x0A || n = 0x0D || (0x20 ≤ n && n ≤ 0x7E) || n = 0x85 ||
    (0xA0 ≤ n && n ≠ 0xFFFE && n ≠ 0xFFFF)

namespace Cursor

/-- Passes over characters of one line. -/
def advance (c : Cursor) (count : Nat) : Cursor :=
  { c with rest := c.rest.drop count, column := c.column + count, index := c.index + count }

/-- One line end, as the characters that stand for it, and the position behind it. -/
def takeBreak (c : Cursor) : Option (List Char × Cursor) :=
  match c.rest with
  | '\r' :: '\n' :: rest => some (['\n'], ⟨rest, c.line + 1, 0, c.index + 2⟩)
  | d :: rest =>
    if isBreak d then
      some (if d.toNat = 0x2028 || d.toNat = 0x2029 then [d] else ['\n'],
        ⟨rest, c.line + 1, 0, c.index + 1⟩)
    else none
  | [] => none

/-- Whether a mark that begins or ends a document stands here. -/
def atDocumentMark (c : Cursor) : Bool :=
  c.column = 0 && match c.rest with
    | '-' :: '-' :: '-' :: rest => endsWord rest
    | '.' :: '.' :: '.' :: rest => endsWord rest
    | _ => false

/-- Passes over characters of a class on one line. -/
def advanceWhile (p : Char → Bool) (c : Cursor) : Cursor :=
  c.advance (c.rest.takeWhile p).length

end Cursor

end ApiTypes.Yaml
