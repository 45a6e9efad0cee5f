import ApiTypes.Descriptor.Property
import ApiTypes.Resolution.SchemaType

/-!
# Flattened unions

* `Scope.candidate` — a variant of a union as a property, whether it is kept or not.
* `numberVariants` — the names of the variants that are kept.
* `Scope.flatten` — a union as the list of its distinct variants, in order.
* `soleType` — the type that stands for a flattened union.
-/

namespace ApiTypes

/-- The name of the kept variant at a place. -/
def variantNameAt (union : String) (place : Nat) : String :=
  union ++ "_sub_" ++ place.repr

/-- The location of a property of a variant. -/
def propertyLocation (owner property : String) : String :=
  owner ++ "." ++ property

/-- The first property that a node declares, when it is an object. -/
def SchemaNode.firstProperty? (node : SchemaNode) : Option (String × SchemaNode) :=
  match node.shape with
  | .object schema => schema.properties.head?
  | _ => none

namespace Scope

/-- A variant of a union as a property without a name.  An object with declared properties counts
as a map to the type of the first of them. -/
def candidate (scope : Scope) (node : SchemaNode) (location : String) :
    Resolving PropertyDescriptor := do
  match node.firstProperty? with
  | some (name, first) =>
    let inner ← scope.schemaType first (propertyLocation location name)
    let type := TypeDescriptor.mapOf inner
    pure
      { name := "", baseName := "", type := type, required := true
        extensions := Extensions.flagContainer (Extensions.flag [] .isObject) type }
  | none =>
    let type ← scope.schemaType node location
    pure
      { name := "", baseName := "", type := type, items := type.items, required := true
        extensions := Extensions.flagContainer [] type }

/-- The candidates of a union, from a place on. -/
def candidates (scope : Scope) (union : String) :
    List SchemaNode → (place : Nat) → Resolving (List PropertyDescriptor)
  | [], _ => pure []
  | node :: nodes, place => do
    let first ← scope.candidate node (variantLocation union place)
    let rest ← scope.candidates union nodes (place + 1)
    pure (first :: rest)

end Scope

/-- Gives variants their names, from a place on. -/
def numberVariants (union : String) : List PropertyDescriptor → (place : Nat) →
    List PropertyDescriptor
  | [], _ => []
  | p :: ps, place =>
    { p with name := variantNameAt union place, baseName := variantNameAt union place } ::
      numberVariants union ps (place + 1)

/-- The union of candidates: of those with the same type the first is kept.  Whether it is
displayed depends on all of them. -/
def unionOf (name : String) (candidates : List PropertyDescriptor) : UnionDescriptor :=
  let kept := firstSeen (fun p q => p.type.sameType q.type) candidates
  { variants := numberVariants name kept 0
    isDisplayable := candidates.all (·.type.isDisplayable)
    variantCount := kept.length }

/-- **A union as the list of its distinct variants**, in the order of the document. -/
def Scope.flatten (scope : Scope) (name : String) (variants : List SchemaNode) :
    Resolving UnionDescriptor := do
  let candidates ← scope.candidates name variants 0
  pure (unionOf name candidates)

/-- The type that stands for a flattened union: that of its only variant, or any value. -/
def soleType (u : UnionDescriptor) : TypeDescriptor :=
  match u.variants with
  | [only] => only.type
  | _ => .dynamic

end ApiTypes
