import ApiTypes.Descriptor.Model
import ApiTypes.Descriptor.Operation

/-!
# Results

What a run makes of a document.

* `TagGroup` — the operations that share a tag.
* `TypedApi` — the whole result; models are found by class name or by key, operations by id.
-/

namespace ApiTypes

/-- The operations that share a tag. -/
structure TagGroup where
  /-- The tag in snake case. -/
  baseName : String
  /-- The tag in camel case. -/
  className : String
  operations : List OperationDescriptor

/-- The result of a run. -/
structure TypedApi where
  title : String
  version : String
  /-- The models by their class names, in order. -/
  models : List (String × ModelDescriptor)
  /-- The operations by their tags, in the order in which the tags are used first. -/
  tags : List (String × TagGroup)

namespace TypedApi

/-- The model with a class name. -/
def model? (api : TypedApi) (className : String) : Option ModelDescriptor :=
  Members.get? api.models className

/-- The model with a key. -/
def modelByKey? (api : TypedApi) (key : String) : Option ModelDescriptor :=
  (api.models.map (·.2)).find? (·.key == key)

/-- All operations, tag by tag. -/
def operations (api : TypedApi) : List OperationDescriptor :=
  api.tags.flatMap (·.2.operations)

/-- The operation with an id. -/
def operation? (api : TypedApi) (operationId : String) : Option OperationDescriptor :=
  api.operations.find? (·.operationId == operationId)

end TypedApi

end ApiTypes
