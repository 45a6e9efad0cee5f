import ApiTypes.Document.Basic
import ApiTypes.Schema.Json

/-!
# API documents in JSON

* `ApiDocument.toJson` — writing.
* `ApiDocument.ofTree` — reading.
-/

namespace ApiTypes

open Source (Tree Fault)
open Source.Tree (Field)

/-! ## Names -/

/-- The names of the origins. -/
def Origin.names : List (String × Origin) :=
  [("declared", .declared), ("request_body", .requestBody), ("inline_response", .inlineResponse),
    ("composed", .composed)]

/-- The name of an origin. -/
def Origin.name : Origin → String
  | .declared => "declared"
  | .requestBody => "request_body"
  | .inlineResponse => "inline_response"
  | .composed => "composed"

/-- The names of the parameter locations. -/
def ParameterLocation.names : List (String × ParameterLocation) :=
  [("path", .path), ("query", .query), ("header", .header), ("cookie", .cookie)]

/-- The name of a parameter location. -/
def ParameterLocation.name : ParameterLocation → String
  | .path => "path"
  | .query => "query"
  | .header => "header"
  | .cookie => "cookie"

/-! ## Writing -/

/-- A model as a JSON object. -/
def ModelSpec.toJson (m : ModelSpec) : Json :=
  .object [("schema", m.schema.toJson), ("origin", .string m.origin.name)]

/-- A parameter as a JSON object. -/
def ParameterSpec.toJson (p : ParameterSpec) : Json :=
  .object [("name", .string p.name), ("in", .string p.location.name),
    ("required", .bool p.required), ("schema", p.schema.toJson)]

/-- A request body as a JSON object. -/
def RequestBodySpec.toJson (b : RequestBodySpec) : Json :=
  .object ([("schema", b.schema.toJson), ("required", .bool b.required)] ++
    metadataMember b.metadata)

/-- A response as a JSON object. -/
def ResponseSpec.toJson (r : ResponseSpec) : Json :=
  .object ([("schema", Json.orNull SchemaNode.toJson r.schema)] ++
    Json.memberIf "description" .string r.description ++ metadataMember r.metadata)

/-- An operation as a JSON object. -/
def OperationSpec.toJson (o : OperationSpec) : Json :=
  .object ([("operation_id", Json.orNull .string o.operationId), ("path", .string o.path),
    ("method", .string o.method), ("tags", Json.arrayOf .string o.tags),
    ("parameters", Json.arrayOf ParameterSpec.toJson o.parameters),
    ("request_body", Json.orNull RequestBodySpec.toJson o.requestBody),
    ("responses", Json.objectOf ResponseSpec.toJson o.responses)] ++ metadataMember o.metadata)

/-- A document as a JSON object. -/
def ApiDocument.toJson (d : ApiDocument) : Json :=
  .object [("title", .string d.title), ("version", .string d.version),
    ("models", Json.objectOf ModelSpec.toJson d.models),
    ("operations", Json.arrayOf OperationSpec.toJson d.operations)]

/-! ## Reading -/

/-- A model whose schema may still be missing. -/
structure ModelParts where
  schema : Option SchemaNode := none
  origin : Origin := .declared

/-- A field of a model. -/
def ModelParts.read (name : String) (value : Tree) (s : ModelParts) :
    Except Fault ModelParts := do
  match name with
  | "schema" => return { s with schema := some (← SchemaNode.ofTree value) }
  | "origin" => return { s with origin := ← value.choice Origin.names }
  | _ => return s

/-- A model. -/
def ModelSpec.ofTree (tree : Tree) : Except Fault ModelSpec := do
  let s ← tree.record "ModelSpec" [.required "schema", .optionally "origin"] ModelParts.read {}
  let schema ← Tree.need "schema" s.schema
  return { schema := schema, origin := s.origin }

/-- A parameter that may still lack something. -/
structure ParameterParts where
  name : Option String := none
  location : Option ParameterLocation := none
  required : Bool := false
  schema : Option SchemaNode := none

/-- A field of a parameter. -/
def ParameterParts.read (name : String) (value : Tree) (s : ParameterParts) :
    Except Fault ParameterParts := do
  match name with
  | "name" => return { s with name := some (← value.string) }
  | "in" => return { s with location := some (← value.choice ParameterLocation.names) }
  | "required" => return { s with required := ← value.bool }
  | "schema" => return { s with schema := some (← SchemaNode.ofTree value) }
  | _ => return s

/-- A parameter. -/
def ParameterSpec.ofTree (tree : Tree) : Except Fault ParameterSpec := do
  let s ← tree.record "ParameterSpec"
    [.required "name", .required "in", .optionally "required", .required "schema"]
    ParameterParts.read {}
  let name ← Tree.need "name" s.name
  let location ← Tree.need "in" s.location
  let schema ← Tree.need "schema" s.schema
  return { name := name, location := location, required := s.required, schema := schema }

/-- A request body whose schema may still be missing. -/
structure RequestBodyParts where
  schema : Option SchemaNode := none
  required : Bool := false
  metadata : Metadata := []

/-- A field of a request body. -/
def RequestBodyParts.read (name : String) (value : Tree) (s : RequestBodyParts) :
    Except Fault RequestBodyParts := do
  match name with
  | "schema" => return { s with schema := some (← SchemaNode.ofTree value) }
  | "required" => return { s with required := ← value.bool }
  | "metadata" => return { s with metadata := ← Metadata.ofTree value }
  | _ => return s

/-- A request body. -/
def RequestBodySpec.ofTree (tree : Tree) : Except Fault RequestBodySpec := do
  let s ← tree.record "RequestBodySpec"
    [.required "schema", .optionally "required", .optionally "metadata"] RequestBodyParts.read {}
  let schema ← Tree.need "schema" s.schema
  return { schema := schema, required := s.required, metadata := s.metadata }

/-- A field of a response. -/
def ResponseSpec.read (name : String) (value : Tree) (s : ResponseSpec) :
    Except Fault ResponseSpec := do
  match name with
  | "schema" => return { s with schema := ← value.option SchemaNode.ofTree }
  | "description" => return { s with description := ← value.option Tree.string }
  | "metadata" => return { s with metadata := ← Metadata.ofTree value }
  | _ => return s

/-- A response. -/
def ResponseSpec.ofTree (tree : Tree) : Except Fault ResponseSpec :=
  tree.record "ResponseSpec"
    [.optionally "schema", .optionally "description", .optionally "metadata"] ResponseSpec.read {}

/-- An operation whose path or method may still be missing. -/
structure OperationParts where
  path : Option String := none
  method : Option String := none
  /-- The other fields, with a path and a method that do not count. -/
  rest : OperationSpec := { path := "", method := "" }

/-- A field of an operation. -/
def OperationParts.read (name : String) (value : Tree) (s : OperationParts) :
    Except Fault OperationParts := do
  match name with
  | "operation_id" => return { s with rest.operationId := ← value.option Tree.string }
  | "path" => return { s with path := some (← value.string) }
  | "method" => return { s with method := some (← value.string) }
  | "tags" => return { s with rest.tags := ← value.list Tree.string }
  | "parameters" => return { s with rest.parameters := ← value.list ParameterSpec.ofTree }
  | "request_body" => return { s with rest.requestBody := ← value.option RequestBodySpec.ofTree }
  | "responses" => return { s with rest.responses := ← value.ordered ResponseSpec.ofTree }
  | "metadata" => return { s with rest.metadata := ← Metadata.ofTree value }
  | _ => return s

/-- An operation. -/
def OperationSpec.ofTree (tree : Tree) : Except Fault OperationSpec := do
  let s ← tree.record "OperationSpec"
    [.optionally "operation_id", .required "path", .required "method", .optionally "tags",
      .optionally "parameters", .optionally "request_body", .optionally "responses",
      .optionally "metadata"] OperationParts.read {}
  let path ← Tree.need "path" s.path
  let method ← Tree.need "method" s.method
  return { s.rest with path := path, method := method }

/-- A field of a document. -/
def ApiDocument.read (name : String) (value : Tree) (s : ApiDocument) :
    Except Fault ApiDocument := do
  match name with
  | "title" => return { s with title := ← value.string }
  | "version" => return { s with version := ← value.string }
  | "models" =>
    let models ← value.distinct ModelSpec.ofTree
    return { s with models := models.1, nodup_keys := models.2 }
  | "operations" => return { s with operations := ← value.list OperationSpec.ofTree }
  | _ => return s

/-- **A document.** -/
def ApiDocument.ofTree (tree : Tree) : Except Fault ApiDocument :=
  tree.record "ApiDocument"
    [.optionally "title", .optionally "version", .optionally "models", .optionally "operations"]
    ApiDocument.read {}

end ApiTypes
