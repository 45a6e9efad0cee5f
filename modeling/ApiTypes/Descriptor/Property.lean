import ApiTypes.Descriptor.Extensions

/-!
# Properties, unions and enums

The named parts of models: properties with their types, the variants of unions, which are
properties too, and the variants of enums.

* `PropertyDescriptor`, `UnionDescriptor`, `EnumDescriptor` — the parts.
* `PropertyDescriptor.types` — the types in a property, at every depth, in order.
* `PropertyDescriptor.mapTypes` — the property with each of these types changed.
-/

namespace ApiTypes

/-- A variant of an enum: the name of the variant, and the value it stands for. -/
structure EnumVariant where
  name : String
  value : String
  deriving DecidableEq, Repr

/-- An enum. -/
structure EnumDescriptor where
  name : String
  variants : List EnumVariant
  deriving DecidableEq, Repr

/-- Whether one of the values of an enum is the empty text. -/
def EnumDescriptor.hasEmptyValue (e : EnumDescriptor) : Bool :=
  e.variants.any (·.value.isEmpty)

/-- A union, over the type of its variants. -/
structure UnionOf (Variant : Type) where
  variants : List Variant
  /-- Whether the values of every variant, left out or not, are printed as they are. -/
  isDisplayable : Bool
  /-- The number of variants that are left after duplicates were left out. -/
  variantCount : Nat

/-- A property of a model, a variant of a union, or the body of a request. -/
structure PropertyDescriptor where
  /-- The name in the generated code. -/
  name : String
  /-- The name in the document. -/
  baseName : String
  type : TypeDescriptor
  /-- The type of the items when the property is a list. -/
  items : Option TypeDescriptor := none
  required : Bool := false
  enumValues : Option EnumDescriptor := none
  union : Option (UnionOf PropertyDescriptor) := none
  extensions : Extensions := []

/-- A union whose variants are properties. -/
abbrev UnionDescriptor := UnionOf PropertyDescriptor

instance : Inhabited PropertyDescriptor := ⟨{ name := "", baseName := "", type := default }⟩

namespace PropertyDescriptor

mutual

/-- The types in a property, at every depth: its own, that of its items, and those of the variants
of its union. -/
def types : PropertyDescriptor → List TypeDescriptor
  | ⟨_, _, type, items, _, _, none, _⟩ => type :: items.toList
  | ⟨_, _, type, items, _, _, some ⟨variants, _, _⟩, _⟩ =>
    type :: items.toList ++ typesOfAll variants
termination_by structural p => p

/-- The types in properties, in order. -/
def typesOfAll : List PropertyDescriptor → List TypeDescriptor
  | [] => []
  | p :: ps => types p ++ typesOfAll ps
termination_by structural ps => ps

end

mutual

/-- The property with each of its types changed, at every depth. -/
def mapTypes (f : TypeDescriptor → TypeDescriptor) : PropertyDescriptor → PropertyDescriptor
  | ⟨name, baseName, type, items, required, enumValues, none, extensions⟩ =>
    ⟨name, baseName, f type, items.map f, required, enumValues, none, extensions⟩
  | ⟨name, baseName, type, items, required, enumValues,
      some ⟨variants, isDisplayable, variantCount⟩, extensions⟩ =>
    ⟨name, baseName, f type, items.map f, required, enumValues,
      some ⟨mapTypesOfAll f variants, isDisplayable, variantCount⟩, extensions⟩
termination_by structural p => p

/-- The properties with each of their types changed. -/
def mapTypesOfAll (f : TypeDescriptor → TypeDescriptor) :
    List PropertyDescriptor → List PropertyDescriptor
  | [] => []
  | p :: ps => mapTypes f p :: mapTypesOfAll f ps
termination_by structural ps => ps

end

end PropertyDescriptor

end ApiTypes
