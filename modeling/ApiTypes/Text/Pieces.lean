/-!
# Pieces of a text

Taking a text apart at a separator or behind a known beginning.

* `afterStart` — what follows a given beginning, if the text has it.
* `splitOnChar` — the parts between the occurrences of a separator.
* `splitAtFirst` — the two sides of its first occurrence.
-/

namespace ApiTypes.Text

/-- What follows the beginning `start` in a text, if the text begins so. -/
def afterStart : (start text : List Char) → Option (List Char)
  | [], cs => some cs
  | _ :: _, [] => none
  | p :: ps, c :: cs => if p = c then afterStart ps cs else none

/-- The text is the beginning and what follows it. -/
theorem afterStart_eq_some_iff {start text rest : List Char} :
    afterStart start text = some rest ↔ text = start ++ rest := by
  induction start generalizing text with
  | nil => simp [afterStart, eq_comm]
  | cons p ps ih =>
    cases text with
    | nil => simp [afterStart]
    | cons c cs =>
      by_cases h : p = c
      · subst h; simp [afterStart, ih]
      · simp [afterStart, h, Ne.symm h]

/-- The parts of a text between the occurrences of a separator.  There is always one more part
than there are separators. -/
def splitOnChar (sep : Char) : List Char → List (List Char)
  | [] => [[]]
  | c :: cs =>
    if c = sep then [] :: splitOnChar sep cs
    else match splitOnChar sep cs with
      | [] => [[c]]
      | part :: parts => (c :: part) :: parts

/-- What comes before and after the first occurrence of a separator, if there is one. -/
def splitAtFirst (sep : Char) : List Char → Option (List Char × List Char)
  | [] => none
  | c :: cs =>
    if c = sep then some ([], cs)
    else (splitAtFirst sep cs).map fun (before, after) => (c :: before, after)

end ApiTypes.Text
