import ApiTypes.Text.Spelling

/-!
# Words of a name

A name in any script is spelled in ASCII and read as a list of words, each a run of letters and
digits.

* `runs` — the words of a text that is spelled already; `words` — of any text.
* `sanitize` — the words joined by single underscores.
* `camelize` — the words joined with a capital at the start of each.
-/

namespace ApiTypes.Name

open Spelling (spelled)

variable [Spelling]

/-- The words of an ASCII text, as the word it begins with (empty when it begins otherwise) and
the words after that one. -/
def splitWords : List Char → List Char × List (List Char)
  | [] => ([], [])
  | c :: cs =>
    let (word, later) := splitWords cs
    if c.isAlphanum then (c :: word, later)
    else ([], if word.isEmpty then later else word :: later)

/-- The longest runs of letters and digits in a text. -/
def runs (cs : List Char) : List (List Char) :=
  let (word, later) := splitWords cs
  if word.isEmpty then later else word :: later

/-- The words of a name: the longest runs of letters and digits in its spelling. -/
def words (cs : List Char) : List (List Char) :=
  runs (spelled cs)

/-- The words of a name, joined by single underscores. -/
def sanitizeChars (cs : List Char) : List Char :=
  ['_'].intercalate (words cs)

/-- A name made safe: its words, joined by single underscores. -/
def sanitize (s : String) : String :=
  String.ofList (sanitizeChars s.toList)

/-- A word with a capital first.  The rest keeps its letters, except that a word without small
letters that stands among others is lowered: `NOT FORCED` has the words `Not` and `Forced`, while
`XML` alone stays. -/
def capitalizeWord (among : Bool) (word : List Char) : List Char :=
  match word with
  | [] => []
  | c :: cs =>
    c.toUpper :: (if among && !word.any Char.isLower then cs.map Char.toLower else cs)

/-- The words of a name, each with a capital first and nothing between them. -/
def camelizeChars (cs : List Char) : List Char :=
  let parts := words cs
  parts.flatMap (capitalizeWord (parts.length ≥ 2))

/-- A name in camel case: its words, each with a capital first and nothing between them. -/
def camelize (s : String) : String :=
  String.ofList (camelizeChars s.toList)

end ApiTypes.Name
