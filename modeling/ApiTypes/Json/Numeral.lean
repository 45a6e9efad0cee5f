import ApiTypes.Source.Tree
import ApiTypes.Text.Whole

/-!
# Numerals

From the digits of a number to its value.

* `Numeral` — a numeral taken apart: sign, whole digits, fraction digits, exponent.
* `Numeral.value?` — its value, unless that is out of range.
* `scanNumeral` — a numeral at the beginning of a text.

A whole number that fits a word of 64 bits is exact.  Everything else is a double, made from the
leading digits that fit an unsigned word and one multiplication or division by a power of ten.
-/

namespace ApiTypes.Json

open Source (Break)

/-! ## Values -/

/-- The greatest value of an unsigned word. -/
def greatestWord : Nat :=
  UInt64.size - 1

/-- A numeral taken apart. -/
structure Numeral where
  negative : Bool
  whole : List Char
  /-- The digits behind the point, if there is one. -/
  fraction : Option (List Char)
  /-- The sign (true when negative) and the digits of the exponent, if there is one. -/
  exponent : Option (Bool × List Char)
  deriving DecidableEq, Repr

/-- Appends digits to a number as long as it fits a word; the number and the digits left over. -/
def appendDigits (n : Nat) : List Char → Nat × List Char
  | [] => (n, [])
  | c :: cs =>
    let next := 10 * n + Text.digitValue c
    if next ≤ greatestWord then appendDigits next cs else (n, c :: cs)

/-- A double times a power of ten that is at most `10 ^ 308` either way, in steps; `none` when the
result has no finite value. -/
def scaled : (tries : Nat) → (x : Float) → (exponent : Int) → Option Float
  | 0, x, _ => some x
  | tries + 1, x, exponent =>
    if exponent.natAbs ≤ 308 then
      if 0 ≤ exponent then
        let y := x * Float.ofScientific 1 false exponent.natAbs
        if y.isInf then none else some y
      else some (x / Float.ofScientific 1 false exponent.natAbs)
    else if x == 0.0 then some x
    else if 0 ≤ exponent then none
    else scaled tries (x / Float.ofScientific 1 false 308) (exponent + 308)

/-- The greatest exponent that is still counted. -/
def greatestExponent : Nat :=
  Nat.pow 2 31 - 1

/-- The double with the given leading digits and power of ten. -/
def double (negative : Bool) (digits : Nat) (exponent : Int) : Option Number :=
  (scaled 8 (UInt64.ofNat digits).toFloat exponent).map fun x =>
    .float (if negative then -x else x)

/-- The value of a numeral, or `none` when it is beyond the doubles. -/
def Numeral.value? (n : Numeral) : Option Number :=
  let (whole, beyond) := appendDigits 0 n.whole
  match n.fraction, n.exponent with
  | none, none =>
    if !beyond.isEmpty then double n.negative whole beyond.length
    else if !n.negative then some (.int whole)
    else if whole = 0 || whole > Nat.pow 2 63 then double true whole 0
    else some (.int (-whole))
  | fraction, exponent =>
    let fractionDigits := fraction.getD []
    let (digits, dropped) := appendDigits whole fractionDigits
    let start : Int := beyond.length - (fractionDigits.length - dropped.length : Nat)
    match exponent with
    | none => double n.negative digits start
    | some (down, exponentDigits) =>
      let e := exponentDigits.foldl (fun e c => 10 * e + Text.digitValue c) 0
      if e > greatestExponent then
        if digits ≠ 0 ∧ !down then none else some (.float (if n.negative then -0.0 else 0.0))
      else double n.negative digits (if down then start - e else start + e)

/-! ## Reading -/

/-- What stands at the beginning of a text where a numeral was begun. -/
inductive NumeralScan where
  /-- A numeral, and the text behind it. -/
  | numeral (n : Numeral) (rest : List Char)
  /-- No numeral: how reading it breaks. -/
  | broken (how : Break)

/-- How a numeral breaks for lack of a digit before the given text. -/
def lacksDigit (rest : List Char) : NumeralScan :=
  .broken (if rest.isEmpty then .endOfText else .malformed)

/-- The exponent of a numeral, if one follows its digits. -/
def scanExponent (negative : Bool) (whole : List Char) (fraction : Option (List Char))
    (cs : List Char) : NumeralScan :=
  match cs with
  | c :: rest =>
    if c = 'e' || c = 'E' then
      let (down, rest) := match rest with
        | '+' :: rest => (false, rest)
        | '-' :: rest => (true, rest)
        | rest => (false, rest)
      let digits := rest.takeWhile Char.isDigit
      let after := rest.dropWhile Char.isDigit
      if digits.isEmpty then lacksDigit after
      else .numeral ⟨negative, whole, fraction, some (down, digits)⟩ after
    else .numeral ⟨negative, whole, fraction, none⟩ cs
  | [] => .numeral ⟨negative, whole, fraction, none⟩ []

/-- A numeral at the beginning of a text: whole digits without a leading zero, digits behind a
point, and an exponent. -/
def scanNumeral (cs : List Char) : NumeralScan :=
  let (negative, cs) := match cs with
    | '-' :: cs => (true, cs)
    | cs => (false, cs)
  let whole := cs.takeWhile Char.isDigit
  let rest := cs.dropWhile Char.isDigit
  if whole.isEmpty then lacksDigit rest
  else if whole.head? = some '0' && whole.length > 1 then .broken .malformed
  else match rest with
    | '.' :: rest =>
      let fraction := rest.takeWhile Char.isDigit
      let after := rest.dropWhile Char.isDigit
      if fraction.isEmpty then lacksDigit after
      else scanExponent negative whole (some fraction) after
    | rest => scanExponent negative whole none rest

end ApiTypes.Json
