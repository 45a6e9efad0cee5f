/-!
# Primitive types

The types of the generated code that stand for themselves.

* `Primitive` — integers by signedness and width, floats, and the other primitive types.
* `Primitive.name`, `Primitive.ofName?` — their names.
* `Primitive.isDisplayable` — those that are printed as they are.
* `Primitive.narrowest` — the narrowest integer type with a number of bits.
-/

namespace ApiTypes

/-- The widths of integers, in bits. -/
inductive IntegerWidth where
  | bits8
  | bits16
  | bits32
  | bits64
  deriving DecidableEq, Repr

/-- The number of bits of a width. -/
def IntegerWidth.bits : IntegerWidth → Nat
  | .bits8 => 8
  | .bits16 => 16
  | .bits32 => 32
  | .bits64 => 64

/-- The least width with at least so many bits, or the greatest one. -/
def IntegerWidth.atLeast (bits : Nat) : IntegerWidth :=
  if bits ≤ 8 then .bits8
  else if bits ≤ 16 then .bits16
  else if bits ≤ 32 then .bits32
  else .bits64

/-- Whether an integer type has negative values. -/
inductive Signedness where
  | signed
  | unsigned
  deriving DecidableEq, Repr

/-- A type of the generated code that stands for itself. -/
inductive Primitive where
  /-- An integer of fixed width. -/
  | integer (sign : Signedness) (width : IntegerWidth)
  /-- An integer as wide as an address. -/
  | address (sign : Signedness)
  | float32
  | float64
  | bool
  | string
  /-- A text of bytes. -/
  | bytes
  | dateTime
  | uuid
  /-- Any value. -/
  | value
  deriving DecidableEq, Repr

namespace Primitive

/-- The name of a primitive type. -/
def name : Primitive → String
  | .integer .signed .bits8 => "i8"
  | .integer .signed .bits16 => "i16"
  | .integer .signed .bits32 => "i32"
  | .integer .signed .bits64 => "i64"
  | .address .signed => "isize"
  | .integer .unsigned .bits8 => "u8"
  | .integer .unsigned .bits16 => "u16"
  | .integer .unsigned .bits32 => "u32"
  | .integer .unsigned .bits64 => "u64"
  | .address .unsigned => "usize"
  | .float32 => "f32"
  | .float64 => "f64"
  | .bool => "bool"
  | .string => "String"
  | .bytes => "Vec<u8>"
  | .dateTime => "DateTime<Utc>"
  | .uuid => "uuid::Uuid"
  | .value => "Value"

/-- All primitive types. -/
def all : List Primitive :=
  [.integer .signed .bits8, .integer .signed .bits16, .integer .signed .bits32,
    .integer .signed .bits64, .address .signed, .integer .unsigned .bits8,
    .integer .unsigned .bits16, .integer .unsigned .bits32, .integer .unsigned .bits64,
    .address .unsigned, .float32, .float64, .bool, .string, .bytes, .dateTime, .uuid, .value]

/-- The primitive type with a name. -/
def ofName? (name : String) : Option Primitive :=
  all.find? fun p => p.name == name

/-- Every primitive type is in the list of all. -/
theorem mem_all (p : Primitive) : p ∈ all := by
  rcases p with ⟨⟨⟩, ⟨⟩⟩ | ⟨⟨⟩⟩ | _ | _ | _ | _ | _ | _ | _ | _ <;> simp [all]

/-- A primitive type is found by its name. -/
theorem ofName?_name (p : Primitive) : ofName? p.name = some p := by
  rcases p with ⟨⟨⟩, ⟨⟩⟩ | ⟨⟨⟩⟩ | _ | _ | _ | _ | _ | _ | _ | _ <;> rfl

/-- Whether a type is one of the integers. -/
def isInteger : Primitive → Bool
  | .integer .. => true
  | .address _ => true
  | _ => false

/-- Whether a type is one of the floats. -/
def isFloat : Primitive → Bool
  | .float32 => true
  | .float64 => true
  | _ => false

/-- Whether values of a type are printed as they are: numbers and strings. -/
def isDisplayable (p : Primitive) : Bool :=
  p.isInteger || p.isFloat || p == .string

/-- The narrowest integer type of a signedness with at least so many bits, up to 64. -/
def narrowest (sign : Signedness) (bits : Nat) : Primitive :=
  .integer sign (.atLeast bits)

end Primitive

end ApiTypes
