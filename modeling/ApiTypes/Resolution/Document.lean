import ApiTypes.Descriptor.Facts
import ApiTypes.Descriptor.Result
import ApiTypes.Naming.Relabelling
import ApiTypes.Naming.Settlement
import ApiTypes.Resolution.Model
import ApiTypes.Resolution.Operation

/-!
# Whole documents

A run: the keys of all models get class names, models and operations are resolved, names are
settled, and the names of all types are made anew.

* `Registry.ofDocument` — the registry with the keys of all models.
* `Registry.withMapLike` — the models with the properties of map-like objects.
* `groupByTag` — operations by their tags.
* `ApiDocument.resolve` — **the run**: an error, or the result with its statistics.
-/

namespace ApiTypes

variable [Spelling]

/-! ## Registration -/

/-- The registry with the keys of models, and what there is to say about their class names. -/
def Registry.registerAll :
    List (String × ModelSpec) → Registry → Registry × List Warning
  | [], r => (r, [])
  | (key, spec) :: rest, r =>
    let (r, registration) := r.register key spec.origin
    let (r, warnings) := registerAll rest r
    (r, registration.warning.toList ++ warnings)

/-- The registry with the keys of a document's models. -/
def Registry.ofDocument (document : ApiDocument) : Registry × List Warning :=
  registerAll document.models empty

/-! ## Map-like objects -/

/-- A model with the properties of the map-like object of its key, if there is one. -/
def ModelDescriptor.withMapLike (memo : MapLikeMemo) (key : String) (m : ModelDescriptor) :
    ModelDescriptor :=
  match Members.get? memo key with
  | some properties =>
    { m with properties := properties, flags := ModelFlags.set m.flags .mapLike }
  | none => m

/-- The registry whose models have the properties of the map-like objects of their keys. -/
def Registry.withMapLike (r : Registry) (memo : MapLikeMemo) : Registry :=
  { r with models := r.models.map fun (key, m) => (key, m.withMapLike memo key) }

/-! ## Tags -/

/-- The group of operations with a tag. -/
def TagGroup.ofTag (tag : String) (operations : List OperationDescriptor) : TagGroup :=
  { baseName := String.ofList (Spelling.snakeCase tag.toList)
    className := Name.camelize tag
    operations := operations }

/-- Tag groups with one more operation: in the group of its tag, which comes last if it is new. -/
def addByTag (groups : List (String × TagGroup)) (o : OperationDescriptor) :
    List (String × TagGroup) :=
  let before := match Members.get? groups o.tag with
    | some group => group.operations
    | none => []
  Members.put groups o.tag (.ofTag o.tag (before ++ [o]))

/-- Operations by their tags, in the order in which the tags are used first. -/
def groupByTag (operations : List OperationDescriptor) : List (String × TagGroup) :=
  operations.foldl addByTag []

/-! ## The run -/

/-- What is known of a document before names are settled: the registry of its resolved models, its
operations, and the number of models that are map-like objects. -/
structure ResolvedDocument where
  registry : Registry
  operations : List OperationDescriptor
  mapLikeModels : Nat

namespace ApiDocument

/-- The models and operations of a document, resolved. -/
def resolveParts (document : ApiDocument) (config : Config) : Resolving ResolvedDocument := do
  let (registered, naming) := Registry.ofDocument document
  Resolving.warnAll naming
  let (models, memo) ← Scope.models ⟨registered, config⟩ document.models []
  let registry := models.foldl Registry.install registered
  let operations ← Scope.operations ⟨registry, config⟩ document.operations
  pure ⟨registry.withMapLike memo, operations, registry.keys.countP (Members.has memo)⟩

/-- The result of a document, from its resolved parts. -/
def finish (document : ApiDocument) (config : Config) (parts : ResolvedDocument) :
    Resolving (TypedApi × Statistics) := do
  let suggestions := Scope.suggestions ⟨parts.registry, config⟩ document.operations
  let settled := parts.registry.settle suggestions parts.operations
  let registry := settled.registry
  Resolving.warnAll settled.warnings
  Resolving.warnAll registry.modelWarnings
  Resolving.warnAll (registry.operationWarnings parts.operations)
  let operations := parts.operations.map (·.relabel registry.className?)
  pure
    ({ title := document.title
       version := document.version
       models := (registry.relabel.mapModels (·.withFacts)).byClassName
       tags := groupByTag operations },
     { modelsResolved := document.models.length
       unionModels := (parts.registry.models.map (·.2)).countP (·.isUnion)
       mapLikeModels := parts.mapLikeModels
       operationsConverted := parts.operations.length
       modelsRenamed := settled.renamed
       modelsDropped := settled.dropped })

/-- **A run.**  The result of a document with its statistics, or the first error. -/
def resolve (document : ApiDocument) (config : Config) :
    Except ResolveError (TypedApi × Statistics) := do
  let ((api, statistics), warnings) ← (document.resolveParts config >>= document.finish config :
    Resolving (TypedApi × Statistics))
  return (api, statistics.withWarnings warnings)

end ApiDocument

end ApiTypes
