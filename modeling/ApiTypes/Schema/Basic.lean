import ApiTypes.Json.Basic
import ApiTypes.Text.Blank

/-!
# Schemas

The schemas of a document: trees of nodes, each of one of six shapes, with free-form metadata.

* `SchemaNode` — a node; `Shape` — its shape, over the type of the nodes below it.
* `ScalarSchema`, `ObjectSchema`, `Extra` — the parts of shapes.
* `ObjectOf.isMapLike` — free-form objects that list example properties.
* `operationNameHint` — the name of an operation, given in metadata.
-/

namespace ApiTypes

/-- Free-form values beside a node, in the order of their names. -/
abbrev Metadata := List (String × Json)

/-! ## Scalars -/

/-- The kinds of scalar values. -/
inductive ScalarKind where
  | integer
  | number
  | string
  | boolean
  deriving DecidableEq, Repr

/-- A scalar value: its kind, and what is known about its values. -/
structure ScalarSchema where
  kind : ScalarKind
  format : Option String := none
  minimum : Option Int64 := none
  maximum : Option Int64 := none
  exclusiveMinimum : Bool := false
  exclusiveMaximum : Bool := false
  enumValues : List Json := []

/-! ## Nodes -/

/-- The values under names that an object does not declare: allowed or not, or described by a
schema. -/
inductive Extra (Node : Type) where
  | any (allowed : Bool)
  | schema (node : Node)

/-- An object: its declared properties in order, those that are required, and what other
properties it may have. -/
structure ObjectOf (Node : Type) where
  properties : List (String × Node) := []
  required : List String := []
  additional : Option (Extra Node) := none

/-- How the variants of a union are combined. -/
inductive UnionKind where
  | oneOf
  | anyOf
  deriving DecidableEq, Repr

/-- The shape of a node, over the type of the nodes below it. -/
inductive Shape (Node : Type) where
  | scalar (schema : ScalarSchema)
  | array (items : Option Node)
  | map (values : Extra Node)
  | object (schema : ObjectOf Node)
  | union (kind : UnionKind) (variants : List Node)
  | reference (name : String)

/-- A node of a schema. -/
structure SchemaNode where
  shape : Shape SchemaNode
  metadata : Metadata := []

instance : Inhabited SchemaNode := ⟨⟨.array none, []⟩⟩

/-- An object schema of a document. -/
abbrev ObjectSchema := ObjectOf SchemaNode

/-! ## Facts about nodes -/

/-- Whether an object requires a property. -/
def ObjectOf.isRequired {Node : Type} (schema : ObjectOf Node) (name : String) : Bool :=
  schema.required.contains name

/-- Whether an object allows any property beside the ones that it declares, and declares some. -/
def ObjectOf.isMapLike {Node : Type} (schema : ObjectOf Node) : Bool :=
  match schema.additional with
  | some (.any true) => !schema.properties.isEmpty
  | _ => false

/-- The name of a union kind as it stands in class names and messages. -/
def UnionKind.marker : UnionKind → String
  | .oneOf => "OneOf"
  | .anyOf => "AnyOf"

/-- The model that a node refers to, when it is nothing but a reference. -/
def SchemaNode.referenceName (node : SchemaNode) : Option String :=
  match node.shape with
  | .reference name => some name
  | _ => none

/-- The metadata key that holds the name of the operation that a body or response belongs to. -/
def operationNameKey : String :=
  "x-codegen-operation-name"

/-- The name of an operation given in metadata, without the blanks around it; a blank name is
none. -/
def operationNameHint (metadata : Metadata) : Option String := do
  let text ← (← Members.get? metadata operationNameKey).asString?
  let name := Text.trim text
  if name.isEmpty then none else some name

end ApiTypes
