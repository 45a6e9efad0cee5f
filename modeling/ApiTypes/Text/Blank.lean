/-!
# Blank characters

Which characters count as blank space, and texts without the blanks at their ends.

* `isBlank` — the characters with the Unicode property White_Space.
* `trimStart`, `trimEnd` — a text without the characters of a class at one end.
* `trim` — a text without the blanks at both ends.
-/

namespace ApiTypes.Text

/-- **Blank characters** are those with the Unicode property White_Space: the ASCII controls from
tab to carriage return, the space, next line, the no-break space, and the typographic spaces and
line ends.  The zero-width space is not one of them. -/
def isBlank (c : Char) : Bool :=
  let n := c.toNat
  (0x09 ≤ n && n ≤ 0x0D) || n == 0x20 || n == 0x85 || n == 0xA0 || n == 0x1680 ||
    (0x2000 ≤ n && n ≤ 0x200A) || n == 0x2028 || n == 0x2029 || n == 0x202F || n == 0x205F ||
    n == 0x3000

/-- A text without its leading characters of a class. -/
def trimStart (p : Char → Bool) (cs : List Char) : List Char :=
  cs.dropWhile p

/-- A text without its trailing characters of a class. -/
def trimEnd (p : Char → Bool) (cs : List Char) : List Char :=
  (cs.reverse.dropWhile p).reverse

/-- A text without the blanks at both of its ends. -/
def trim (s : String) : String :=
  String.ofList (trimEnd isBlank (trimStart isBlank s.toList))

end ApiTypes.Text
