import ApiTypes.Descriptor.Basic
import ApiTypes.Config
import ApiTypes.Naming.Registry
import ApiTypes.Resolution.Integer
import ApiTypes.Resolution.Resolving

/-!
# The type of a schema

* `Scope` — what a schema is resolved in: the registered models and the configuration.
* `Scope.scalarType` — the type of a scalar.
* `Scope.schemaType` — the type of any node.  References have the class name that their model has
  at the time; shapes that fit no type stand for any value.
* `firstSeen` — the first of each group of things that count as the same.

A node is named by its location: the items of a list add `[]` to that of the list, the values of a
map add a pair of braces, and the variants of a union their places in angle brackets.
-/

namespace ApiTypes

/-- What a schema is resolved in. -/
structure Scope where
  registry : Registry
  config : Config

/-! ## Locations -/

/-- The location of the items of a list. -/
def itemsLocation (location : String) : String :=
  location ++ "[]"

/-- The location of the values of a map. -/
def valuesLocation (location : String) : String :=
  location ++ "\x7b\x7d"

/-- The location of a variant of a union. -/
def variantLocation (location : String) (place : Nat) : String :=
  location ++ "<" ++ place.repr ++ ">"

/-- The first of each group of things that count as the same, in order. -/
def firstSeen {α : Type} (same : α → α → Bool) (xs : List α) : List α :=
  xs.foldl (fun kept x => if kept.any (same · x) then kept else kept ++ [x]) []

namespace Scope

/-! ## Scalars -/

/-- The type of a string with a format. -/
def stringType : Option String → Primitive
  | some "date-time" => .dateTime
  | some "date" => .dateTime
  | some "binary" => .bytes
  | some "uuid" => .uuid
  | _ => .string

/-- The type of a number with a format. -/
def numberType : Option String → Primitive
  | some "float" => .float32
  | _ => .float64

/-- The type of a scalar. -/
def scalarType (scope : Scope) (s : ScalarSchema) : Except ResolveError TypeDescriptor := do
  let primitive ← match s.kind with
    | .integer => integerType s scope.config.addressSizedIntegers
    | .number => .ok (numberType s.format)
    | .string => .ok (stringType s.format)
    | .boolean => .ok .bool
  return (TypeDescriptor.primitive primitive).withFormat s.format

/-- The type of a reference. -/
def referenceType (scope : Scope) (key : String) : Except ResolveError TypeDescriptor :=
  match scope.registry.className? key with
  | some className => .ok (.model key className)
  | none => .error (.unresolvedReference key)

/-! ## Nodes -/

/-- The type that stands for a union inside another type: its only type, if there is one. -/
def unionType (location : String) (kind : UnionKind) (types : List TypeDescriptor) :
    Resolving TypeDescriptor :=
  match firstSeen TypeDescriptor.sameType types with
  | [] => pure .dynamic
  | [only] => pure only
  | distinct => do
    .warn (.dynamicFallback location
      (FallbackReason.distinctVariants kind.marker distinct.length).message)
    pure .dynamic

mutual

/-- **The type of a node.** -/
def schemaType (scope : Scope) : SchemaNode → (location : String) → Resolving TypeDescriptor
  | ⟨shape, _⟩, location => shapeType scope shape location
termination_by structural node => node

/-- The type of a node of a shape. -/
def shapeType (scope : Scope) :
    Shape SchemaNode → (location : String) → Resolving TypeDescriptor
  | .scalar schema, location => .located location (scope.scalarType schema)
  | .array none, location => do
    .warn (.missingArrayItems location)
    pure (.listOf (TypeDescriptor.primitive .string).asSynthesized)
  | .array (some items), location => do
    let inner ← schemaType scope items (itemsLocation location)
    pure (.listOf inner)
  | .map (.any _), _ => pure (.mapOf .dynamic)
  | .map (.schema values), location => do
    let inner ← schemaType scope values (valuesLocation location)
    pure (.mapOf inner)
  | .object ⟨_, _, some (.schema values)⟩, location => do
    let inner ← schemaType scope values (valuesLocation location)
    pure (.mapOf inner)
  | .object ⟨_, _, some (.any true)⟩, _ => pure (.mapOf .dynamic)
  | .object ⟨properties, _, _⟩, location => do
    if !properties.isEmpty then
      .warn (.dynamicFallback location FallbackReason.declaredProperties.message)
    pure .dynamic
  | .union kind variants, location => do
    let types ← variantTypes scope variants location 0
    unionType location kind types
  | .reference name, location => .located location (scope.referenceType name)
termination_by structural shape => shape

/-- The types of the variants of a union, from a place on. -/
def variantTypes (scope : Scope) :
    List SchemaNode → (location : String) → (place : Nat) → Resolving (List TypeDescriptor)
  | [], _, _ => pure []
  | node :: nodes, location, place => do
    let type ← schemaType scope node (variantLocation location place)
    let types ← variantTypes scope nodes location (place + 1)
    pure (type :: types)
termination_by structural nodes => nodes

end

end Scope

end ApiTypes
