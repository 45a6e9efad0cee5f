import ApiTypes.Resolution.Enum
import ApiTypes.Resolution.Union

/-!
# Properties of objects

* `Owner` — the object that properties belong to.
* `Scope.describe` — what is known about a property: its type, its enum, its union.
* `Scope.plainProperties` — the properties of an object, inline map-like objects taken for what
  their shape says.
* `MapLikeMemo`, `Scope.rememberMapLike` — map-like objects whose properties were resolved once.
* `Scope.properties` — the properties of a model; inline map-like objects are remembered.
-/

namespace ApiTypes

variable [Spelling]

/-- The object that properties belong to: its key or location, and what the names of nested types
begin with. -/
structure Owner where
  location : String
  typePrefix : String
  deriving DecidableEq, Repr

/-- The name of an enum or union inside a property. -/
def Owner.nestedName (owner : Owner) (property : String) : String :=
  owner.typePrefix ++ Name.camelize property

/-- An object without a class name of its own. -/
def Owner.anonymous (location : String) : Owner :=
  ⟨location, Name.camelize location⟩

/-- What is known about a property. -/
structure PropertyFacts where
  type : TypeDescriptor
  enumValues : Option EnumDescriptor := none
  union : Option UnionDescriptor := none

/-- A property with known facts. -/
def PropertyFacts.property (facts : PropertyFacts) (baseName : String) (required : Bool) :
    PropertyDescriptor :=
  { name := Name.fieldName baseName
    baseName := baseName
    type := facts.type
    items := facts.type.items
    required := required
    enumValues := facts.enumValues
    union := facts.union }

/-- The variants of a node that is a list of unions. -/
def SchemaNode.itemVariants? (node : SchemaNode) : Option (List SchemaNode) :=
  match node.shape with
  | .array (some items) =>
    match items.shape with
    | .union _ variants => some variants
    | _ => none
  | _ => none

namespace Scope

/-- The facts of a property.  Unions, and lists of unions, are flattened; scalars with listed
values are enums. -/
def describe (scope : Scope) (owner : Owner) (baseName : String) (node : SchemaNode) :
    Resolving PropertyFacts := do
  let location := propertyLocation owner.location baseName
  let nested := owner.nestedName baseName
  match node.itemVariants? with
  | some variants =>
    let union ← scope.flatten nested variants
    pure { type := .listOf (soleType union), union := some union }
  | none =>
    match node.shape with
    | .union _ variants =>
      let union ← scope.flatten nested variants
      pure { type := soleType union, union := some union }
    | .scalar schema =>
      let type ← Resolving.located location (scope.scalarType schema)
      if schema.enumValues.isEmpty then pure { type := type }
      else pure { type := type, enumValues := some (describeEnum nested schema.enumValues) }
    | _ =>
      let type ← scope.schemaType node location
      pure { type := type }

/-- The properties of an object, in the order of their declaration. -/
def plainProperties (scope : Scope) (owner : Owner) (schema : ObjectSchema) :
    Resolving (List PropertyDescriptor) :=
  schema.properties.mapM fun (baseName, node) => do
    let facts ← scope.describe owner baseName node
    pure (facts.property baseName (schema.isRequired baseName))

end Scope

/-! ## Map-like objects -/

/-- The properties of map-like objects, by the names they were met under: keys of models, and
locations of properties. -/
abbrev MapLikeMemo := List (String × List PropertyDescriptor)

/-- The map-like object that a node is. -/
def SchemaNode.mapLike? (node : SchemaNode) : Option ObjectSchema :=
  match node.shape with
  | .object schema => if schema.isMapLike then some schema else none
  | _ => none

/-- The type that a map-like object is used as. -/
def mapLikeType : TypeDescriptor :=
  .mapOf .dynamic

namespace Scope

/-- Resolves the properties of a map-like object when its name is met first; later ones under that
name count as the same. -/
def rememberMapLike (scope : Scope) (memo : MapLikeMemo) (name : String) (schema : ObjectSchema) :
    Resolving MapLikeMemo :=
  if Members.has memo name then pure memo
  else do
    let properties ← scope.plainProperties (.anonymous name) schema
    pure (memo ++ [(name, properties)])

/-- A property of a model.  When it is a map-like object, that object is remembered under its
location. -/
def property (scope : Scope) (owner : Owner) (baseName : String) (node : SchemaNode)
    (required : Bool) (memo : MapLikeMemo) : Resolving (PropertyDescriptor × MapLikeMemo) := do
  match node.mapLike? with
  | some schema =>
    let memo ← scope.rememberMapLike memo (propertyLocation owner.location baseName) schema
    let facts : PropertyFacts := { type := mapLikeType }
    pure (facts.property baseName required, memo)
  | none =>
    let facts ← scope.describe owner baseName node
    pure (facts.property baseName required, memo)

/-- The properties of a model, in the order of their declaration. -/
def properties (scope : Scope) (owner : Owner) (required : String → Bool) :
    List (String × SchemaNode) → MapLikeMemo → Resolving (List PropertyDescriptor × MapLikeMemo)
  | [], memo => pure ([], memo)
  | (baseName, node) :: rest, memo => do
    let (p, memo) ← scope.property owner baseName node (required baseName) memo
    let (ps, memo) ← scope.properties owner required rest memo
    pure (p :: ps, memo)

end Scope

end ApiTypes
