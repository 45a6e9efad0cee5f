import ApiTypes.Descriptor.Property
import ApiTypes.Document.Basic

/-!
# Operations

* `OperationDescriptor` — an operation as the renderer sees it, with its parameters and responses.
* `OperationDescriptor.types`, `OperationDescriptor.mapTypes` — the types in an operation, read and
  changed.
-/

namespace ApiTypes

/-- A parameter of an operation. -/
structure ParameterDescriptor where
  /-- The name in the generated code. -/
  name : String
  /-- The name in the document. -/
  baseName : String
  type : TypeDescriptor
  location : ParameterLocation
  required : Bool := false
  extensions : Extensions := []

/-- A response of an operation. -/
structure ResponseDescriptor where
  code : String
  isDefault : Bool
  isSuccess : Bool
  type : Option TypeDescriptor := none
  description : Option String := none

/-- An operation as the renderer sees it. -/
structure OperationDescriptor where
  operationId : String
  /-- The name of the method that calls the operation. -/
  nickname : String
  path : String
  httpMethod : String
  tag : String
  body : Option PropertyDescriptor := none
  pathParams : List ParameterDescriptor := []
  queryParams : List ParameterDescriptor := []
  headerParams : List ParameterDescriptor := []
  responses : List ResponseDescriptor := []
  extensions : Extensions := []

namespace OperationDescriptor

/-- The parameters of an operation: those in its path, its query and its headers. -/
def parameters (o : OperationDescriptor) : List ParameterDescriptor :=
  o.pathParams ++ o.queryParams ++ o.headerParams

/-- The types in an operation: those of its body, its parameters and its responses. -/
def types (o : OperationDescriptor) : List TypeDescriptor :=
  o.body.toList.flatMap (·.types) ++ o.parameters.map (·.type) ++ o.responses.filterMap (·.type)

/-- The operation with each of its types changed. -/
def mapTypes (f : TypeDescriptor → TypeDescriptor) (o : OperationDescriptor) :
    OperationDescriptor :=
  let change (p : ParameterDescriptor) : ParameterDescriptor := { p with type := f p.type }
  { o with
    body := o.body.map (·.mapTypes f)
    pathParams := o.pathParams.map change
    queryParams := o.queryParams.map change
    headerParams := o.headerParams.map change
    responses := o.responses.map fun r => { r with type := r.type.map f } }

/-- The keys of the models that an operation refers to. -/
def references (o : OperationDescriptor) : List String :=
  o.types.flatMap (·.references)

end OperationDescriptor

end ApiTypes
