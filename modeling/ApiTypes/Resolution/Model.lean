import ApiTypes.Document.Basic
import ApiTypes.Resolution.Property

/-!
# Models of a document

* `Scope.model` — the descriptor of a registered model, by the shape of its schema.
* `Scope.models` — those of all models, in the order of the document.
-/

namespace ApiTypes

variable [Spelling]

namespace Scope

/-- **The descriptor of a model.**  Objects with declared properties are records, unions are unions,
scalars with listed values are enums, and everything else is another name for a type. -/
def model (scope : Scope) (key : String) (spec : ModelSpec) (memo : MapLikeMemo) :
    Resolving (ModelDescriptor × MapLikeMemo) := do
  let className ← match scope.registry.className? key with
    | some className => pure className
    | none => Resolving.failWith (.unresolvedReference key)
  let model : ModelDescriptor := { key := key, className := className, origin := spec.origin }
  let asAlias : Resolving (ModelDescriptor × MapLikeMemo) := do
    let type ← scope.schemaType spec.schema key
    pure ({ model with type := some type, flags := [.alias] }, memo)
  match spec.schema.shape with
  | .object schema =>
    if schema.isMapLike then
      let memo ← scope.rememberMapLike memo key schema
      pure ({ model with type := some mapLikeType, flags := [.record] }, memo)
    else if schema.properties.isEmpty then asAlias
    else
      let (properties, memo) ← scope.properties ⟨key, className⟩ schema.isRequired
        schema.properties memo
      pure ({ model with properties := properties, flags := [.record] }, memo)
  | .union _ variants =>
    let union ← scope.flatten className variants
    pure ({ model with union := some union, flags := [.union] }, memo)
  | .scalar schema =>
    if schema.enumValues.isEmpty then asAlias
    else
      let type ← Resolving.located key (scope.scalarType schema)
      pure ({ model with
        enumValues := some (describeEnum className schema.enumValues), type := some type,
        flags := [.enum] }, memo)
  | _ => asAlias

/-- The descriptors of models, in order, with the map-like objects that were met. -/
def models (scope : Scope) :
    List (String × ModelSpec) → MapLikeMemo → Resolving (List ModelDescriptor × MapLikeMemo)
  | [], memo => pure ([], memo)
  | (key, spec) :: rest, memo => do
    let (m, memo) ← scope.model key spec memo
    let (ms, memo) ← scope.models rest memo
    pure (m :: ms, memo)

end Scope

end ApiTypes
