import ApiTypes.Descriptor.Json.Property
import ApiTypes.Descriptor.Operation
import ApiTypes.Document.Json

/-!
# Operations in JSON

* `OperationDescriptor.toJson`, `OperationDescriptor.ofTree` — writing and reading an operation, and
  the same for its parameters and responses.
-/

namespace ApiTypes

open Source (Tree Fault)

namespace ParameterDescriptor

/-- A parameter as a JSON object. -/
def toJson (p : ParameterDescriptor) : Json :=
  .object ([("name", .string p.name), ("base_name", .string p.baseName), ("type", p.type.toJson),
    ("location", .string p.location.name), ("required", .bool p.required)] ++
    extensionsMember p.extensions)

/-- A parameter that may still lack something. -/
structure Parts where
  name : Option String := none
  baseName : Option String := none
  type : Option TypeDescriptor := none
  location : Option ParameterLocation := none
  required : Bool := false
  extensions : Extensions := []

/-- A field of a parameter. -/
def Parts.read (name : String) (value : Tree) (s : Parts) : Except Fault Parts := do
  match name with
  | "name" => return { s with name := some (← value.string) }
  | "base_name" => return { s with baseName := some (← value.string) }
  | "type" => return { s with type := some (← TypeDescriptor.ofTree value) }
  | "location" => return { s with location := some (← value.choice ParameterLocation.names) }
  | "required" => return { s with required := ← value.bool }
  | "vendor_extensions" => return { s with extensions := ← Extensions.ofTree value }
  | _ => return s

/-- A parameter. -/
def ofTree (tree : Tree) : Except Fault ParameterDescriptor := do
  let s ← tree.record "ParameterDescriptor"
    [.required "name", .required "base_name", .required "type", .required "location",
      .optionally "required", .optionally "vendor_extensions"] Parts.read {}
  let name ← Tree.need "name" s.name
  let baseName ← Tree.need "base_name" s.baseName
  let type ← Tree.need "type" s.type
  let location ← Tree.need "location" s.location
  return ⟨name, baseName, type, location, s.required, s.extensions⟩

end ParameterDescriptor

namespace ResponseDescriptor

/-- A response as a JSON object. -/
def toJson (r : ResponseDescriptor) : Json :=
  .object ([("code", .string r.code), ("is_default", .bool r.isDefault),
    ("is_success", .bool r.isSuccess)] ++ Json.memberIf "data_type" TypeDescriptor.toJson r.type ++
    Json.memberIf "description" .string r.description)

/-- A response that may still lack something. -/
structure Parts where
  code : Option String := none
  isDefault : Option Bool := none
  isSuccess : Option Bool := none
  type : Option TypeDescriptor := none
  description : Option String := none

/-- A field of a response. -/
def Parts.read (name : String) (value : Tree) (s : Parts) : Except Fault Parts := do
  match name with
  | "code" => return { s with code := some (← value.string) }
  | "is_default" => return { s with isDefault := some (← value.bool) }
  | "is_success" => return { s with isSuccess := some (← value.bool) }
  | "data_type" => return { s with type := ← value.option TypeDescriptor.ofTree }
  | "description" => return { s with description := ← value.option Tree.string }
  | _ => return s

/-- A response. -/
def ofTree (tree : Tree) : Except Fault ResponseDescriptor := do
  let s ← tree.record "ResponseDescriptor"
    [.required "code", .required "is_default", .required "is_success", .optionally "data_type",
      .optionally "description"] Parts.read {}
  let code ← Tree.need "code" s.code
  let isDefault ← Tree.need "is_default" s.isDefault
  let isSuccess ← Tree.need "is_success" s.isSuccess
  return ⟨code, isDefault, isSuccess, s.type, s.description⟩

end ResponseDescriptor

namespace OperationDescriptor

/-- An operation as a JSON object. -/
def toJson (o : OperationDescriptor) : Json :=
  .object ([("operation_id", .string o.operationId), ("nickname", .string o.nickname),
    ("path", .string o.path), ("http_method", .string o.httpMethod), ("tag", .string o.tag)] ++
    Json.memberIf "body" PropertyDescriptor.toJson o.body ++
    [("path_params", Json.arrayOf ParameterDescriptor.toJson o.pathParams),
      ("query_params", Json.arrayOf ParameterDescriptor.toJson o.queryParams),
      ("header_params", Json.arrayOf ParameterDescriptor.toJson o.headerParams),
      ("responses", Json.arrayOf ResponseDescriptor.toJson o.responses)] ++
    extensionsMember o.extensions)

/-- An operation that may still lack something. -/
structure Parts where
  operationId : Option String := none
  nickname : Option String := none
  path : Option String := none
  httpMethod : Option String := none
  tag : Option String := none
  /-- The other fields, with names that do not count. -/
  rest : OperationDescriptor :=
    { operationId := "", nickname := "", path := "", httpMethod := "", tag := "" }

/-- A field of an operation. -/
def Parts.read (name : String) (value : Tree) (s : Parts) : Except Fault Parts := do
  match name with
  | "operation_id" => return { s with operationId := some (← value.string) }
  | "nickname" => return { s with nickname := some (← value.string) }
  | "path" => return { s with path := some (← value.string) }
  | "http_method" => return { s with httpMethod := some (← value.string) }
  | "tag" => return { s with tag := some (← value.string) }
  | "body" => return { s with rest.body := ← value.option PropertyDescriptor.ofTree }
  | "path_params" => return { s with rest.pathParams := ← value.list ParameterDescriptor.ofTree }
  | "query_params" => return { s with rest.queryParams := ← value.list ParameterDescriptor.ofTree }
  | "header_params" =>
    return { s with rest.headerParams := ← value.list ParameterDescriptor.ofTree }
  | "responses" => return { s with rest.responses := ← value.list ResponseDescriptor.ofTree }
  | "vendor_extensions" => return { s with rest.extensions := ← Extensions.ofTree value }
  | _ => return s

/-- An operation. -/
def ofTree (tree : Tree) : Except Fault OperationDescriptor := do
  let s ← tree.record "OperationDescriptor"
    [.required "operation_id", .required "nickname", .required "path", .required "http_method",
      .required "tag", .optionally "body", .optionally "path_params", .optionally "query_params",
      .optionally "header_params", .optionally "responses", .optionally "vendor_extensions"]
    Parts.read {}
  let operationId ← Tree.need "operation_id" s.operationId
  let nickname ← Tree.need "nickname" s.nickname
  let path ← Tree.need "path" s.path
  let httpMethod ← Tree.need "http_method" s.httpMethod
  let tag ← Tree.need "tag" s.tag
  return { s.rest with
    operationId := operationId, nickname := nickname, path := path, httpMethod := httpMethod,
    tag := tag }

end OperationDescriptor

end ApiTypes
