import ApiTypes.Descriptor.Primitive
import ApiTypes.Report.Error
import ApiTypes.Schema.Basic

/-!
# Integer types

The integer type of a scalar, from its format or else from its bounds.

* `IntegerBounds` — the least and the greatest value, once exclusive bounds were moved by one.
* `requiredBits` — the bits that a bound takes.
* `integerType` — the type.
-/

namespace ApiTypes

/-- The least and the greatest value of an integer. -/
structure IntegerBounds where
  minimum : Option Int
  maximum : Option Int
  deriving DecidableEq, Repr

/-- Whether a value fits a signed word of 64 bits. -/
def fitsSigned (value : Int) : Bool :=
  Int64.minValue.toInt ≤ value && value ≤ Int64.maxValue.toInt

/-- A bound, moved by one when it is exclusive.  The moved bound must still fit a word. -/
def inclusiveBound (which : BoundKind) (exclusive : Bool) (step : Int) :
    Option Int64 → Except ResolveError (Option Int)
  | none => .ok none
  | some bound =>
    if exclusive then
      if fitsSigned (bound.toInt + step) then .ok (some (bound.toInt + step))
      else .error (.invalidBound which bound.toInt none)
    else .ok (some bound.toInt)

namespace IntegerBounds

/-- The bounds of a scalar. -/
def ofSchema (s : ScalarSchema) : Except ResolveError IntegerBounds := do
  let minimum ← inclusiveBound .minimum s.exclusiveMinimum 1 s.minimum
  let maximum ← inclusiveBound .maximum s.exclusiveMaximum (-1) s.maximum
  return ⟨minimum, maximum⟩

/-- Values with a least one that is not negative need no sign. -/
def signedness (b : IntegerBounds) : Signedness :=
  match b.minimum with
  | some minimum => if 0 ≤ minimum then .unsigned else .signed
  | none => .signed

end IntegerBounds

/-! ## Bits -/

/-- The number of binary digits of a number; zero has none. -/
def bitLength (n : Nat) : Nat :=
  if n = 0 then 0 else n.log2 + 1

/-- The bits that a bound takes, at least one; none when there is no bound.  With a sign, one bit is
for the sign, and a negative bound takes the bits of the number that lies one above it in size.
Without a sign, a bound cannot be negative. -/
def requiredBits (sign : Signedness) (which : BoundKind) : Option Int → Except ResolveError Nat
  | none => .ok 0
  | some bound =>
    match sign with
    | .unsigned =>
      if bound < 0 then .error (.invalidBound which bound none)
      else .ok (1 + bitLength (bound.toNat / 2))
    | .signed => .ok (1 + bitLength (if bound < 0 then -(bound + 1) else bound).toNat)

/-! ## Types -/

/-- The width that a format tells, and whether the format asks for no sign. -/
def formatWidth? : String → Option (IntegerWidth × Bool)
  | "int8" => some (.bits8, false)
  | "int16" => some (.bits16, false)
  | "int32" => some (.bits32, false)
  | "int64" => some (.bits64, false)
  | "uint8" => some (.bits8, true)
  | "uint16" => some (.bits16, true)
  | "uint32" => some (.bits32, true)
  | "uint64" => some (.bits64, true)
  | _ => none

/-- **The type of an integer.**  A format with a width decides it.  Otherwise an integer without an
upper bound, and with a lower bound of at most sixteen bits, is as wide as an address, or takes 64
bits when widths are to be fixed; any other is as narrow as its bounds allow. -/
def integerType (s : ScalarSchema) (addressSized : Bool) : Except ResolveError Primitive := do
  let bounds ← IntegerBounds.ofSchema s
  let sign := bounds.signedness
  let minBits ← requiredBits sign .minimum bounds.minimum
  let maxBits ← requiredBits sign .maximum bounds.maximum
  match s.format.bind formatWidth? with
  | some (width, forced) => return .integer (if forced then .unsigned else sign) width
  | none =>
    if maxBits = 0 ∧ minBits ≤ 16 then
      return if addressSized then .address sign else .integer sign .bits64
    else return .narrowest sign (max minBits maxBits)

end ApiTypes
