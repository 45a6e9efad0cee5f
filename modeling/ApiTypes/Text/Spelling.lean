/-!
# Spellings

Documents have names in any script, and generated code has names in ASCII.  How a text is spelled in
ASCII, and how a name of several words is written in letters of one case, comes from outside: names
are made by whatever spelling there is.

* `Spelling` — what names are made by.
* `AsciiSpelling` — a spelling that has nothing to do where a text is in ASCII already.
-/

namespace ApiTypes

/-- **A spelling of names.**  Nothing is said of how it spells them. -/
class Spelling where
  /-- A text in any script, spelled in ASCII. -/
  spelled : List Char → List Char
  /-- A name in small letters, with underscores between its parts. -/
  snakeCase : List Char → List Char
  /-- A name in capitals, with underscores between its parts. -/
  constantCase : List Char → List Char

/-- A spelling that leaves texts in ASCII as they are. -/
class AsciiSpelling extends Spelling where
  spelled_of_ascii {cs : List Char} (h : ∀ c ∈ cs, c.toNat < 0x80) : spelled cs = cs

end ApiTypes
