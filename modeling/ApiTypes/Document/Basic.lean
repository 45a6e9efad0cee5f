import ApiTypes.Schema.Basic

/-!
# API documents

The input of a run: named models and operations, as a parser of API descriptions hands them over.

* `ApiDocument` — the whole document.
* `ModelSpec`, `Origin` — a named model, and where it comes from.
* `OperationSpec` — an operation with its parameters, body and responses.
-/

namespace ApiTypes

/-- Where a model comes from.  All but declared models were lifted out of the place where they
stood, and carry names that were made up for them. -/
inductive Origin where
  /-- Declared under its own name. -/
  | declared
  /-- The body of a request. -/
  | requestBody
  /-- A response. -/
  | inlineResponse
  /-- A union inside another schema. -/
  | composed
  deriving DecidableEq, Repr

/-- A model of a document. -/
structure ModelSpec where
  schema : SchemaNode
  origin : Origin := .declared

/-- Where a parameter is given. -/
inductive ParameterLocation where
  | path
  | query
  | header
  | cookie
  deriving DecidableEq, Repr

/-- A parameter of an operation. -/
structure ParameterSpec where
  name : String
  location : ParameterLocation
  required : Bool := false
  schema : SchemaNode

/-- The body of a request. -/
structure RequestBodySpec where
  schema : SchemaNode
  required : Bool := false
  metadata : Metadata := []

/-- A response of an operation. -/
structure ResponseSpec where
  schema : Option SchemaNode := none
  description : Option String := none
  metadata : Metadata := []

/-- An operation. -/
structure OperationSpec where
  operationId : Option String := none
  path : String
  method : String
  tags : List String := []
  parameters : List ParameterSpec := []
  requestBody : Option RequestBodySpec := none
  /-- The responses by their codes, in order. -/
  responses : List (String × ResponseSpec) := []
  metadata : Metadata := []

/-- An API description: the models by their keys, and the operations, both in order.  No two models
share a key. -/
structure ApiDocument where
  title : String := ""
  version : String := ""
  models : List (String × ModelSpec) := []
  operations : List OperationSpec := []
  nodup_keys : (Members.names models).Nodup := by simp [Members.names]

end ApiTypes
