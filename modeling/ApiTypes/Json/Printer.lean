import ApiTypes.Decimal.Shortest
import ApiTypes.Json.Basic

/-!
# Written form of JSON values

* `FloatLayout` — how the decimal form of a double is laid out; `Json.floatLayout` is the choice
  made here.
* `Json.compact` — a value on one line, without blanks.
* `Json.pretty` — a value over several lines, two spaces to a level.
-/

namespace ApiTypes

/-! ## Numbers -/

/-- How a decimal number is laid out: first-digit exponents from `least` up to but without `bound`
are written with a point among the digits, all others in scientific notation. -/
structure FloatLayout where
  least : Int
  bound : Int

/-- Doubles are written in positional notation from five places behind the point up to sixteen
places before it. -/
def Json.floatLayout : FloatLayout := ⟨-5, 16⟩

/-- Puts the point among the digits: `exponent` is that of the first digit. -/
def positional (digits : List Char) (exponent : Int) : List Char :=
  if exponent < 0 then
    ['0', '.'] ++ List.replicate (-exponent - 1).toNat '0' ++ digits
  else
    let whole := exponent.toNat + 1
    let before := digits.take whole
    let after := digits.drop whole
    before ++ List.replicate (whole - before.length) '0' ++ ['.'] ++
      (if after.isEmpty then ['0'] else after)

/-- One digit, the point and the others if there are any, and the exponent with its sign. -/
def scientific (digits : List Char) (exponent : Int) : List Char :=
  (match digits with
    | [] => []
    | [d] => [d]
    | d :: ds => d :: '.' :: ds) ++
  ['e', if exponent < 0 then '-' else '+'] ++ Nat.toDigits 10 exponent.natAbs

/-- The text of a double, with the fewest digits that read back as it. -/
def floatChars (layout : FloatLayout) (x : Float) : List Char :=
  if x.isNaN || x.isInf then "null".toList
  else
    let b := Decimal.Binary.ofFloat x
    let s := Decimal.shortest b
    let digits := Nat.toDigits 10 s.digits
    let exponent := s.exponent + digits.length - 1
    (if b.negative then ['-'] else []) ++
      (if layout.least ≤ exponent ∧ exponent < layout.bound then positional digits exponent
        else scientific digits exponent)

/-- The text of a double. -/
def floatText (x : Float) : String :=
  String.ofList (floatChars Json.floatLayout x)

/-- The digits of a whole number, with its sign. -/
def intChars : Int → List Char
  | .ofNat n => Nat.toDigits 10 n
  | .negSucc n => '-' :: Nat.toDigits 10 (n + 1)

/-- The text of a number. -/
def Number.chars : Number → List Char
  | .int value => intChars value
  | .float value => floatChars Json.floatLayout value

/-! ## Strings -/

/-- A character inside a string: quotes and backslashes behind a backslash, the common controls by
their letter, other controls by their code, everything else as it is. -/
def escapedChar (c : Char) : List Char :=
  if c = '"' then ['\\', '"']
  else if c = '\\' then ['\\', '\\']
  else if c.toNat = 0x08 then ['\\', 'b']
  else if c.toNat = 0x09 then ['\\', 't']
  else if c.toNat = 0x0A then ['\\', 'n']
  else if c.toNat = 0x0C then ['\\', 'f']
  else if c.toNat = 0x0D then ['\\', 'r']
  else if c.toNat < 0x10 then ['\\', 'u', '0', '0', '0', Nat.digitChar c.toNat]
  else if c.toNat < 0x20 then ['\\', 'u', '0', '0', '1', Nat.digitChar (c.toNat - 0x10)]
  else [c]

/-- A string between its quotes. -/
def stringChars (s : String) : List Char :=
  '"' :: s.toList.flatMap escapedChar ++ ['"']

/-! ## Values on one line -/

namespace Json

mutual

/-- A value on one line, without blanks. -/
def compactChars : Json → List Char
  | .null => ['n', 'u', 'l', 'l']
  | .bool true => ['t', 'r', 'u', 'e']
  | .bool false => ['f', 'a', 'l', 's', 'e']
  | .number n => n.chars
  | .string s => stringChars s
  | .array [] => ['[', ']']
  | .array (item :: items) => '[' :: compactChars item ++ compactItems items ++ [']']
  | .object [] => ['\x7b', '\x7d']
  | .object ((name, value) :: members) =>
    '\x7b' :: stringChars name ++ ':' :: compactChars value ++ compactMembers members ++ ['\x7d']

/-- The items after the first one, each behind a comma. -/
def compactItems : List Json → List Char
  | [] => []
  | item :: items => ',' :: compactChars item ++ compactItems items

/-- The members after the first one, each behind a comma. -/
def compactMembers : List (String × Json) → List Char
  | [] => []
  | (name, value) :: members =>
    ',' :: stringChars name ++ ':' :: compactChars value ++ compactMembers members

end

/-- A value on one line, without blanks. -/
def compact (j : Json) : String :=
  String.ofList j.compactChars

/-! ## Values over several lines -/

/-- A line end and the blanks that begin the next line at a level. -/
def newLine (level : Nat) : List Char :=
  '\n' :: List.replicate (2 * level) ' '

mutual

/-- A value over several lines, at a level.  Empty arrays and objects stay on their line. -/
def prettyChars (level : Nat) : Json → List Char
  | .array [] => ['[', ']']
  | .array (item :: items) =>
    '[' :: newLine (level + 1) ++ prettyChars (level + 1) item ++
      prettyItems (level + 1) items ++ newLine level ++ [']']
  | .object [] => ['\x7b', '\x7d']
  | .object ((name, value) :: members) =>
    '\x7b' :: newLine (level + 1) ++ stringChars name ++ [':', ' '] ++
      prettyChars (level + 1) value ++ prettyMembers (level + 1) members ++ newLine level ++
      ['\x7d']
  | .null => ['n', 'u', 'l', 'l']
  | .bool true => ['t', 'r', 'u', 'e']
  | .bool false => ['f', 'a', 'l', 's', 'e']
  | .number n => n.chars
  | .string s => stringChars s

/-- The items after the first one, each on a line of its own. -/
def prettyItems (level : Nat) : List Json → List Char
  | [] => []
  | item :: items => ',' :: newLine level ++ prettyChars level item ++ prettyItems level items

/-- The members after the first one, each on a line of its own. -/
def prettyMembers (level : Nat) : List (String × Json) → List Char
  | [] => []
  | (name, value) :: members =>
    ',' :: newLine level ++ stringChars name ++ [':', ' '] ++ prettyChars level value ++
      prettyMembers level members

end

/-- A value over several lines, two spaces to a level. -/
def pretty (j : Json) : String :=
  String.ofList (j.prettyChars 0)

end Json

end ApiTypes
