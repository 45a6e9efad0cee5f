import ApiTypes.Json.Basic

/-!
# Warnings and counts of a run

* `Warning` — something that a run met and went on after; `Warning.message` is the wording.
* `Statistics` — the counts and the warnings of a run.
-/

namespace ApiTypes

/-- Why an inline schema has no type of its own. -/
inductive FallbackReason where
  /-- It is an object with declared properties. -/
  | declaredProperties
  /-- It is a union with several distinct types; the marker is that of its kind. -/
  | distinctVariants (marker : String) (count : Nat)
  deriving DecidableEq, Repr

/-- The wording of a reason. -/
def FallbackReason.message : FallbackReason → String
  | .declaredProperties => "inline object with declared properties"
  | .distinctVariants marker count =>
    "inline " ++ marker ++ " with " ++ count.repr ++ " distinct variant types"

/-- Something that a run met and went on after. -/
inductive Warning where
  /-- A list says nothing about its items. -/
  | missingArrayItems (location : String)
  /-- The name of a model is reserved. -/
  | reservedModelName (name className : String)
  /-- The name of a model starts with a digit. -/
  | digitLeadingModelName (name className : String)
  /-- A schema has no type of its own and stands for any value. -/
  | dynamicFallback (location reason : String)
  /-- A type referred to a model that was left out. -/
  | danglingReference (location key : String)
  /-- A union that nothing gave a name was left out. -/
  | droppedSyntheticModel (className : String)
  deriving DecidableEq, Repr

namespace Warning

/-- The wording of a warning. -/
def message : Warning → String
  | .missingArrayItems location =>
    "'" ++ location ++ "': array has no items schema, using String elements"
  | .reservedModelName name className =>
    "Model '" ++ name ++ "' collides with a reserved identifier, renamed to '" ++ className ++ "'"
  | .digitLeadingModelName name className =>
    "Model '" ++ name ++ "' starts with a digit, renamed to '" ++ className ++ "'"
  | .dynamicFallback location reason =>
    "'" ++ location ++ "': " ++ reason ++ ", falling back to Value"
  | .danglingReference location key =>
    "'" ++ location ++ "' referenced dropped model '" ++ key ++ "', falling back to Value"
  | .droppedSyntheticModel className => "Dropped unnamed union model '" ++ className ++ "'"

/-- Whether a warning is about the naming of a model alone. -/
def isNaming : Warning → Bool
  | .reservedModelName .. => true
  | .digitLeadingModelName .. => true
  | _ => false

/-- A warning as a JSON object. -/
def toJson : Warning → Json
  | .missingArrayItems location =>
    .object [("kind", .string "missing_array_items"), ("location", .string location)]
  | .reservedModelName name className =>
    .object [("kind", .string "reserved_model_name"), ("name", .string name),
      ("class_name", .string className)]
  | .digitLeadingModelName name className =>
    .object [("kind", .string "digit_leading_model_name"), ("name", .string name),
      ("class_name", .string className)]
  | .dynamicFallback location reason =>
    .object [("kind", .string "dynamic_fallback"), ("location", .string location),
      ("reason", .string reason)]
  | .danglingReference location key =>
    .object [("kind", .string "dangling_reference"), ("location", .string location),
      ("key", .string key)]
  | .droppedSyntheticModel className =>
    .object [("kind", .string "dropped_synthetic_model"), ("class_name", .string className)]

end Warning

/-! ## Counts -/

/-- The counts and the warnings of a run. -/
structure Statistics where
  modelsResolved : Nat := 0
  unionModels : Nat := 0
  mapLikeModels : Nat := 0
  operationsConverted : Nat := 0
  modelsRenamed : Nat := 0
  modelsDropped : Nat := 0
  warnings : List Warning := []
  deriving DecidableEq, Repr

/-- The things that a run counts. -/
inductive Counted where
  | model
  | unionModel
  | mapLikeModel
  | operation
  | renamedModel
  | droppedModel
  deriving DecidableEq, Repr

/-- One more of a thing. -/
def Statistics.count (s : Statistics) : Counted → Statistics
  | .model => { s with modelsResolved := s.modelsResolved + 1 }
  | .unionModel => { s with unionModels := s.unionModels + 1 }
  | .mapLikeModel => { s with mapLikeModels := s.mapLikeModels + 1 }
  | .operation => { s with operationsConverted := s.operationsConverted + 1 }
  | .renamedModel => { s with modelsRenamed := s.modelsRenamed + 1 }
  | .droppedModel => { s with modelsDropped := s.modelsDropped + 1 }

/-- More warnings, after those that are there. -/
def Statistics.withWarnings (s : Statistics) (ws : List Warning) : Statistics :=
  { s with warnings := s.warnings ++ ws }

/-- The counts and the warnings as a JSON object. -/
def Statistics.toJson (s : Statistics) : Json :=
  .object [("models_resolved", Json.ofNat s.modelsResolved),
    ("union_models", Json.ofNat s.unionModels), ("map_like_models", Json.ofNat s.mapLikeModels),
    ("operations_converted", Json.ofNat s.operationsConverted),
    ("models_renamed", Json.ofNat s.modelsRenamed), ("models_dropped", Json.ofNat s.modelsDropped),
    ("warnings", .array (s.warnings.map Warning.toJson))]

end ApiTypes
