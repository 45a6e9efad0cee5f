import ApiTypes.Descriptor.Json.Model
import ApiTypes.Descriptor.Json.Operation
import ApiTypes.Descriptor.Result

/-!
# Results in JSON

* `TypedApi.toJson`, `TypedApi.ofTree` — writing and reading a result, and the same for its tags.
-/

namespace ApiTypes

open Source (Tree Fault)

namespace TagGroup

/-- A tag with its operations as a JSON object. -/
def toJson (g : TagGroup) : Json :=
  .object [("base_name", .string g.baseName), ("class_name", .string g.className),
    ("operations", Json.arrayOf OperationDescriptor.toJson g.operations)]

/-- A tag that may still lack something. -/
structure Parts where
  baseName : Option String := none
  className : Option String := none
  operations : Option (List OperationDescriptor) := none

/-- A field of a tag. -/
def Parts.read (name : String) (value : Tree) (s : Parts) : Except Fault Parts := do
  match name with
  | "base_name" => return { s with baseName := some (← value.string) }
  | "class_name" => return { s with className := some (← value.string) }
  | "operations" => return { s with operations := some (← value.list OperationDescriptor.ofTree) }
  | _ => return s

/-- A tag with its operations. -/
def ofTree (tree : Tree) : Except Fault TagGroup := do
  let s ← tree.record "TagGroup"
    [.required "base_name", .required "class_name", .required "operations"] Parts.read {}
  let baseName ← Tree.need "base_name" s.baseName
  let className ← Tree.need "class_name" s.className
  let operations ← Tree.need "operations" s.operations
  return ⟨baseName, className, operations⟩

end TagGroup

namespace TypedApi

/-- A result as a JSON object. -/
def toJson (api : TypedApi) : Json :=
  .object [("title", .string api.title), ("version", .string api.version),
    ("models", Json.objectOf ModelDescriptor.toJson api.models),
    ("tags", Json.objectOf TagGroup.toJson api.tags)]

/-- A result that may still lack something. -/
structure Parts where
  title : Option String := none
  version : Option String := none
  models : Option (List (String × ModelDescriptor)) := none
  tags : Option (List (String × TagGroup)) := none

/-- A field of a result. -/
def Parts.read (name : String) (value : Tree) (s : Parts) : Except Fault Parts := do
  match name with
  | "title" => return { s with title := some (← value.string) }
  | "version" => return { s with version := some (← value.string) }
  | "models" => return { s with models := some (← value.ordered ModelDescriptor.ofTree) }
  | "tags" => return { s with tags := some (← value.ordered TagGroup.ofTree) }
  | _ => return s

/-- **A result.** -/
def ofTree (tree : Tree) : Except Fault TypedApi := do
  let s ← tree.record "GeneratedIr"
    [.required "title", .required "version", .required "models", .required "tags"] Parts.read {}
  let title ← Tree.need "title" s.title
  let version ← Tree.need "version" s.version
  let models ← Tree.need "models" s.models
  let tags ← Tree.need "tags" s.tags
  return ⟨title, version, models, tags⟩

end TypedApi

end ApiTypes
