import ApiTypes.Source.Tree
import ApiTypes.Json.Token

/-!
# Plain words

What a word without quotes stands for: nothing, a truth value, a number, or its own text.

* `wordValue` — the value of a word.
-/

namespace ApiTypes.Yaml

open Source (Scalar)

/-! ## Whole numbers -/

/-- The value of digits in a base up to sixteen; there has to be one digit at least. -/
def digitsIn? (base : Nat) (cs : List Char) : Option Nat :=
  if cs.isEmpty then none
  else cs.foldlM (fun n c => do
    let d ← Json.hexValue? c
    if d < base then some (base * n + d) else none) 0

/-- Whether a word is digits with a zero in front, with or without a sign: that is text. -/
def hasIdleZero (cs : List Char) : Bool :=
  let digits := match cs with
    | '+' :: rest => rest
    | '-' :: rest => rest
    | rest => rest
  digits.length > 1 && digits.head? == some '0' && digits.all Char.isDigit

/-- The size of a whole number, in base ten or in the base that its first characters tell. -/
def magnitude? (cs : List Char) : Option Nat :=
  match cs with
  | '0' :: 'x' :: rest => digitsIn? 16 rest
  | '0' :: 'o' :: rest => digitsIn? 8 rest
  | '0' :: 'b' :: rest => digitsIn? 2 rest
  | rest => digitsIn? 10 rest

/-- The whole number that a word stands for.  Numbers of more than 128 bits are not whole. -/
def wholeNumber? (cs : List Char) : Option Int :=
  if hasIdleZero cs then none
  else match cs with
    | '-' :: rest => do
      let n ← magnitude? rest
      if n ≤ Nat.pow 2 127 then some (-(n : Int)) else none
    | '+' :: rest => do
      let n ← magnitude? rest
      if n < Nat.pow 2 128 then some (n : Int) else none
    | rest => do
      let n ← magnitude? rest
      if n < Nat.pow 2 128 then some (n : Int) else none

/-! ## Other numbers -/

/-- A decimal number without a sign: digits with at most one point among them, and an exponent. -/
def decimal? (cs : List Char) : Option Float :=
  let whole := cs.takeWhile Char.isDigit
  let rest := cs.dropWhile Char.isDigit
  let (fraction, rest) := match rest with
    | '.' :: rest => (rest.takeWhile Char.isDigit, rest.dropWhile Char.isDigit)
    | rest => ([], rest)
  if whole.isEmpty && fraction.isEmpty then none
  else
    let digits := (whole ++ fraction).foldl (fun n c => 10 * n + Text.digitValue c) 0
    let scale := fraction.length
    let value (exponent : Int) : Option Float :=
      let e := exponent - scale
      let x := if digits = 0 || e < -100000 then 0.0
        else if e > 100000 then 1.0 / 0.0
        else Float.ofScientific digits (e < 0) e.natAbs
      if x.isFinite then some x else none
    match rest with
    | [] => value 0
    | c :: rest =>
      if c = 'e' || c = 'E' then
        let (down, digits) := match rest with
          | '+' :: rest => (false, rest)
          | '-' :: rest => (true, rest)
          | rest => (false, rest)
        match digitsIn? 10 digits with
        | some n => value (if down then -(n : Int) else n)
        | none => none
      else none

/-- The double that a word stands for. -/
def double? (cs : List Char) : Option Float :=
  let word := String.ofList cs
  if [".inf", ".Inf", ".INF", "+.inf", "+.Inf", "+.INF"].contains word then some (1.0 / 0.0)
  else if ["-.inf", "-.Inf", "-.INF"].contains word then some (-1.0 / 0.0)
  else if [".nan", ".NaN", ".NAN"].contains word then some (0.0 / 0.0)
  else if hasIdleZero cs then none
  else match cs with
    | '-' :: rest => (decimal? rest).map fun x => -x
    | '+' :: rest => decimal? rest
    | rest => decimal? rest

/-! ## Words -/

/-- **The value of a word.** -/
def wordValue (word : String) : Scalar :=
  if ["", "~", "null", "Null", "NULL"].contains word then .null
  else if ["true", "True", "TRUE"].contains word then .bool true
  else if ["false", "False", "FALSE"].contains word then .bool false
  else match wholeNumber? word.toList with
    | some n => .number (.int n)
    | none =>
      match double? word.toList with
      | some x => .number (.float x)
      | none => .string word

end ApiTypes.Yaml
