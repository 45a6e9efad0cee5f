/-!
# Shortest decimal form of a double

The decimal number with the fewest digits among those that a double is the nearest double to.

* `Binary` — a finite double as a whole number times a power of two.
* `Scientific` — a whole number times a power of ten.
* `shortest` — the decimal form: fewest digits first, then nearest, then an even last digit.
-/

namespace ApiTypes.Decimal

/-- A finite double: `mantissa · 2 ^ exponent`, with a sign. -/
structure Binary where
  negative : Bool
  mantissa : Nat
  exponent : Int
  deriving DecidableEq, Repr

/-- A decimal number: `digits · 10 ^ exponent`. -/
structure Scientific where
  digits : Nat
  exponent : Int
  deriving DecidableEq, Repr

/-- A finite double taken apart. -/
def Binary.ofFloat (x : Float) : Binary :=
  let bits : Nat := x.toBits.toNat
  let biased : Nat := bits / Nat.pow 2 52 % Nat.pow 2 11
  let fraction : Nat := bits % Nat.pow 2 52
  { negative := bits / Nat.pow 2 63 == 1
    mantissa := if biased = 0 then fraction else fraction + Nat.pow 2 52
    exponent := if biased = 0 then -1074 else Int.ofNat biased - 1075 }

/-- The decimal points of one grid around a value.  In units of a quarter of the distance between
neighbouring doubles the value is `4 · mantissa`; `numerator / denominator` is that unit measured in
steps of the grid. -/
structure Grid where
  numerator : Nat
  denominator : Nat

/-- The grid with the step `10 ^ step`, for doubles that are `2 ^ exponent` apart. -/
def Grid.of (exponent step : Int) : Grid :=
  { numerator := Nat.pow 2 (exponent - 2).toNat * Nat.pow 10 (-step).toNat
    denominator := Nat.pow 2 (2 - exponent).toNat * Nat.pow 10 step.toNat }

/-- The reals that round to a double, in quarters: both ends, and whether they belong to it. -/
structure Interval where
  low : Nat
  high : Nat
  closed : Bool

/-- The interval of a double.  Below a power of two the doubles lie twice as close. -/
def Interval.of (b : Binary) : Interval :=
  { low := 4 * b.mantissa - (if b.mantissa = Nat.pow 2 52 ∧ b.exponent ≠ -1074 then 1 else 2)
    high := 4 * b.mantissa + 2
    closed := b.mantissa % 2 == 0 }

/-- Whether the `d`-th point of a grid rounds to the double of an interval. -/
def Interval.holds (i : Interval) (g : Grid) (d : Nat) : Bool :=
  let low := i.low * g.numerator
  let high := i.high * g.numerator
  let point := d * g.denominator
  if i.closed then low ≤ point && point ≤ high else low < point && point < high

/-- The number of steps down from one to the first power of ten that is not above the value
`num / den < 1`. -/
def stepsBelowOne : (limit num den : Nat) → Nat
  | 0, _, _ => 0
  | limit + 1, num, den => if den ≤ 10 * num then 1 else 1 + stepsBelowOne limit (10 * num) den

/-- The exponent of the first digit of a positive double. -/
def leadingExponent (b : Binary) : Int :=
  let num := b.mantissa * Nat.pow 2 b.exponent.toNat
  let den := Nat.pow 2 (-b.exponent).toNat
  if den ≤ num then ((Nat.toDigits 10 (num / den)).length : Int) - 1
  else -(stepsBelowOne 400 num den : Int)

/-- The point of a grid that stands for a double: of its two neighbours on the grid those that
round to it, of both the nearer, of equally near ones the even. -/
def Grid.point? (g : Grid) (b : Binary) : Option Nat :=
  let value := 4 * b.mantissa * g.numerator
  let d := value / g.denominator
  let i := Interval.of b
  match i.holds g d, i.holds g (d + 1) with
  | false, false => none
  | true, false => some d
  | false, true => some (d + 1)
  | true, true =>
    let below := value - d * g.denominator
    let above := (d + 1) * g.denominator - value
    if below < above then some d
    else if above < below then some (d + 1)
    else if d % 2 = 0 then some d else some (d + 1)

/-- A decimal number without trailing zeros among its digits. -/
def Scientific.stripZeros : (limit : Nat) → Scientific → Scientific
  | 0, s => s
  | limit + 1, s =>
    if s.digits ≠ 0 ∧ s.digits % 10 = 0 then
      stripZeros limit { digits := s.digits / 10, exponent := s.exponent + 1 }
    else s

/-- Tries grids of `count` digits and more for a double whose first digit has the exponent
`lead`. -/
def search (b : Binary) (lead : Int) : (tries count : Nat) → Scientific
  | 0, count => { digits := b.mantissa, exponent := lead - count }
  | tries + 1, count =>
    let step := lead - count + 1
    match (Grid.of b.exponent step).point? b with
    | some d => Scientific.stripZeros 20 { digits := d, exponent := step }
    | none => search b lead tries (count + 1)

/-- **The shortest decimal form** of a double without its sign: the fewest digits that read back as
it, and of those the nearest. -/
def shortest (b : Binary) : Scientific :=
  if b.mantissa = 0 then { digits := 0, exponent := 0 }
  else search b (leadingExponent b) 17 1

end ApiTypes.Decimal
