import ApiTypes.Text.LetterCase
import ApiTypes.Text.Romanization
import ApiTypes.Text.Spelling

/-!
# Latin spelling

The spelling that the program runs with: letters of other scripts by the tables of romanization, and
parts of compound names by joints and by capitals behind small letters.

* `latinSpelling` — that spelling; it leaves ASCII as it is.
-/

namespace ApiTypes

/-- **The spelling that the program runs with.** -/
instance latinSpelling : AsciiSpelling where
  spelled := Text.romanized
  snakeCase := Text.snakeCase
  constantCase := Text.constantCase
  spelled_of_ascii := Text.romanized_of_ascii

end ApiTypes
