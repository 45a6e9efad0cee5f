/-!
# Whole numbers in a text

* `digitValue` — the value of a digit.
* `whole?` — the number that a text of decimal digits stands for.
-/

namespace ApiTypes.Text

/-- The value of a decimal digit. -/
def digitValue (c : Char) : Nat :=
  c.toNat - '0'.toNat

/-- The number that decimal digits stand for, after those that were read already. -/
def digitsFrom (n : Nat) : List Char → Option Nat
  | [] => some n
  | c :: cs => if c.isDigit then digitsFrom (10 * n + digitValue c) cs else none

/-- The number that a text stands for: one or more decimal digits, with a plus sign before them or
without. -/
def whole? (s : String) : Option Nat :=
  match s.toList with
  | [] | ['+'] => none
  | '+' :: cs => digitsFrom 0 cs
  | cs => digitsFrom 0 cs

end ApiTypes.Text
