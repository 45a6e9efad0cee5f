import ApiTypes.Schema.Basic
import ApiTypes.Source.Decode

/-!
# Schemas in JSON

The form of schemas in documents: one object to a node, with its shape under `type`, the parts of
the shape beside it, and the metadata.

* `SchemaNode.toJson` — writing.
* `SchemaNode.ofTree` — reading.  A node is read whole before it is looked at, except that its
  metadata is decoded when it is met.
-/

namespace ApiTypes

open Source (Tree Fault mismatch check)
open Source.Tree (Field)

/-! ## Names -/

/-- The names of the scalar kinds. -/
def ScalarKind.names : List (String × ScalarKind) :=
  [("integer", .integer), ("number", .number), ("string", .string), ("boolean", .boolean)]

/-- The name of a scalar kind. -/
def ScalarKind.name : ScalarKind → String
  | .integer => "integer"
  | .number => "number"
  | .string => "string"
  | .boolean => "boolean"

/-- The names of the union kinds. -/
def UnionKind.names : List (String × UnionKind) :=
  [("one_of", .oneOf), ("any_of", .anyOf)]

/-- The name of a union kind. -/
def UnionKind.name : UnionKind → String
  | .oneOf => "one_of"
  | .anyOf => "any_of"

/-- The shapes of nodes, without their parts. -/
inductive ShapeTag where
  | scalar
  | array
  | map
  | object
  | union
  | reference
  deriving DecidableEq, Repr

/-- The names of the shapes. -/
def ShapeTag.names : List (String × ShapeTag) :=
  [("scalar", .scalar), ("array", .array), ("map", .map), ("object", .object), ("union", .union),
    ("reference", .reference)]

/-! ## Writing -/

/-- The metadata member, there only when there is metadata. -/
def metadataMember (metadata : Metadata) : List (String × Json) :=
  if metadata.isEmpty then [] else [("metadata", .object metadata)]

/-- The members of a scalar shape. -/
def ScalarSchema.members (s : ScalarSchema) : List (String × Json) :=
  [("kind", .string s.kind.name)] ++
    Json.memberIf "format" .string s.format ++
    Json.memberIf "minimum" (fun v : Int64 => .number (.int v.toInt)) s.minimum ++
    Json.memberIf "maximum" (fun v : Int64 => .number (.int v.toInt)) s.maximum ++
    [("exclusive_minimum", .bool s.exclusiveMinimum),
      ("exclusive_maximum", .bool s.exclusiveMaximum)] ++
    (if s.enumValues.isEmpty then [] else [("enum_values", .array s.enumValues)])

namespace SchemaNode

mutual

/-- A node as a JSON object. -/
def toJson : SchemaNode → Json
  | ⟨shape, metadata⟩ => .object (shapeMembers shape ++ metadataMember metadata)

/-- The members that tell the shape of a node. -/
def shapeMembers : Shape SchemaNode → List (String × Json)
  | .scalar schema => ("type", .string "scalar") :: schema.members
  | .array none => [("type", .string "array"), ("items", .null)]
  | .array (some items) => [("type", .string "array"), ("items", toJson items)]
  | .map values => [("type", .string "map"), ("values", extraToJson values)]
  | .object ⟨properties, required, additional⟩ =>
    [("type", .string "object"), ("properties", .object (propertiesToJson properties))] ++
      (if required.isEmpty then [] else [("required", .array (required.map .string))]) ++
      additionalMember additional
  | .union kind variants =>
    [("type", .string "union"), ("kind", .string kind.name),
      ("variants", .array (listToJson variants))]
  | .reference name => [("type", .string "reference"), ("name", .string name)]

/-- What is said about undeclared properties. -/
def extraToJson : Extra SchemaNode → Json
  | .any allowed => .bool allowed
  | .schema node => toJson node

/-- The member about undeclared properties, if something is said about them. -/
def additionalMember : Option (Extra SchemaNode) → List (String × Json)
  | none => []
  | some extra => [("additional_properties", extraToJson extra)]

/-- Nodes, in order. -/
def listToJson : List SchemaNode → List Json
  | [] => []
  | node :: nodes => toJson node :: listToJson nodes

/-- Named nodes, in order. -/
def propertiesToJson : List (String × SchemaNode) → List (String × Json)
  | [] => []
  | (name, node) :: rest => (name, toJson node) :: propertiesToJson rest

end

end SchemaNode

/-! ## Reading -/

/-- Metadata, in any tree. -/
def Metadata.ofTree (tree : Tree) : Except Fault Metadata :=
  tree.sorted Tree.json

/-- The members of a node, taken apart: its metadata, if there is any, and all other members. -/
structure NodeParts where
  metadata : Option Metadata := none
  /-- The other members, latest first. -/
  others : List (Tree × Tree) := []

/-- Takes the members of a node apart, in the order of the text. -/
def NodeParts.gather (prepare : Tree → Except Fault Tree) :
    List (Tree × Tree) → NodeParts → Except Fault NodeParts
  | [], parts => return parts
  | (key, value) :: rest, parts => do
    match key with
    | .scalar (.string "metadata") | .word "metadata" _ =>
      if parts.metadata.isSome then mismatch (.duplicateField "metadata")
      let metadata ← Metadata.ofTree value
      gather prepare rest { parts with metadata := some metadata }
    | _ =>
      let key ← keyOf key
      let value ← prepare value
      gather prepare rest { parts with others := (key, value) :: parts.others }
where
  /-- A key as the name, or the number, of a field. -/
  keyOf : Tree → Except Fault Tree
    | .scalar (.number (.int i)) =>
      if 0 ≤ i then return .scalar (.number (.int i))
      else mismatch (.wrongType (.integer i) "field identifier")
    | .scalar (.string name) => return .scalar (.string name)
    | .word name _ => return .scalar (.string name)
    | tree => .error (tree.refused "field identifier")

/-- The shape that a tree names, by its name or its place among the shapes. -/
def ShapeTag.ofTree : Tree → Except Fault ShapeTag
  | .scalar (.string name) => Tree.pick ShapeTag.names name
  | .scalar (.number (.int i)) =>
    if 0 ≤ i then
      match ShapeTag.names[i.toNat]? with
      | some (_, tag) => return tag
      | none => mismatch (.wrongValue (.integer i) "variant index 0 <= i < 6")
    else mismatch (.wrongType (.integer i) "variant identifier")
  | tree => .error (tree.refused "variant identifier")

/-- Whether a key is `type`. -/
def isTypeKey : Tree → Bool
  | .scalar (.string name) => name == "type"
  | _ => false

/-- The shape named under `type`, which must be there once. -/
def findTag : List (Tree × Tree) → Option ShapeTag → Except Fault ShapeTag
  | [], some tag => return tag
  | [], none => mismatch (.missingField "type")
  | (key, value) :: rest, found =>
    if isTypeKey key then
      match found with
      | some _ => mismatch (.duplicateField "type")
      | none => do findTag rest (some (← ShapeTag.ofTree value))
    else findTag rest found

/-- The fields of a shape, read from members of a tree that has been read whole. -/
def readShape {σ : Type} (fields : List String) (read : String → Tree → σ → Except Fault σ)
    (members : List (Tree × Tree)) (start : σ) : Except Fault σ :=
  Tree.readMembers (fields.map Field.optionally) read members [] start

/-- A scalar whose kind may still be missing. -/
structure ScalarParts where
  kind : Option ScalarKind := none
  /-- The other facts, with a kind that does not count. -/
  facts : ScalarSchema := { kind := .string }

/-- A field of a scalar. -/
def ScalarParts.read (name : String) (value : Tree) (s : ScalarParts) :
    Except Fault ScalarParts := do
  match name with
  | "kind" => return { s with kind := some (← value.settledChoice ScalarKind.names) }
  | "format" => return { s with facts.format := ← value.option Tree.string }
  | "minimum" => return { s with facts.minimum := ← value.option Tree.signedWord }
  | "maximum" => return { s with facts.maximum := ← value.option Tree.signedWord }
  | "exclusive_minimum" => return { s with facts.exclusiveMinimum := ← value.bool }
  | "exclusive_maximum" => return { s with facts.exclusiveMaximum := ← value.bool }
  | "enum_values" => return { s with facts.enumValues := ← value.list Tree.json }
  | _ => return s

/-- The shape of a scalar node. -/
def ScalarSchema.ofMembers (members : List (Tree × Tree)) : Except Fault ScalarSchema := do
  let s ← readShape ["kind", "format", "minimum", "maximum", "exclusive_minimum",
    "exclusive_maximum", "enum_values"] ScalarParts.read members {}
  let kind ← Tree.need "kind" s.kind
  return { s.facts with kind := kind }

/-- What is said about undeclared properties: a truth value or a schema.  Why neither fits is not
told. -/
def Extra.ofTree (decode : Tree → Except Fault SchemaNode) (tree : Tree) :
    Except Fault (Extra SchemaNode) :=
  match tree.bool with
  | .ok allowed => return .any allowed
  | .error _ =>
    match decode tree with
    | .ok node => return .schema node
    | .error _ => mismatch (.noForm "AdditionalProperties")

/-- A field of an object shape. -/
def readObjectField (node : Tree → Except Fault SchemaNode) (name : String) (value : Tree)
    (s : ObjectSchema) : Except Fault ObjectSchema := do
  match name with
  | "properties" => return { s with properties := ← value.ordered node }
  | "required" => return { s with required := ← value.list Tree.string }
  | "additional_properties" => return { s with additional := ← value.option (Extra.ofTree node) }
  | _ => return s

/-- A union whose parts may still be missing. -/
structure UnionParts where
  kind : Option UnionKind := none
  variants : Option (List SchemaNode) := none

/-- A field of a union shape. -/
def UnionParts.read (node : Tree → Except Fault SchemaNode) (name : String) (value : Tree)
    (s : UnionParts) : Except Fault UnionParts := do
  match name with
  | "kind" => return { s with kind := some (← value.settledChoice UnionKind.names) }
  | "variants" => return { s with variants := some (← value.list node) }
  | _ => return s

/-- The parts of a shape, from members of a tree that has been read whole. -/
def Shape.ofMembers (node : Tree → Except Fault SchemaNode) (tag : ShapeTag)
    (members : List (Tree × Tree)) : Except Fault (Shape SchemaNode) := do
  match tag with
  | .scalar => return .scalar (← ScalarSchema.ofMembers members)
  | .array =>
    let items ← readShape ["items"] (fun _ value _ => value.option node) members none
    return .array items
  | .map =>
    let values ← readShape ["values"] (fun _ value _ => some <$> Extra.ofTree node value) members
      none
    return .map (← Tree.need "values" values)
  | .object =>
    let schema ← readShape ["properties", "required", "additional_properties"]
      (readObjectField node) members {}
    return .object schema
  | .union =>
    let s ← readShape ["kind", "variants"] (UnionParts.read node) members {}
    let kind ← Tree.need "kind" s.kind
    let variants ← Tree.need "variants" s.variants
    return .union kind variants
  | .reference =>
    let name ← readShape ["name"] (fun _ value _ => some <$> value.string) members none
    return .reference (← Tree.need "name" name)

namespace SchemaNode

/-- A node whose members have been taken apart. -/
def ofParts (node : Tree → Except Fault SchemaNode) (parts : NodeParts) :
    Except Fault SchemaNode := do
  let others := parts.others.reverse
  let tag ← findTag others none
  let shape ← Shape.ofMembers node tag (others.filter fun member => !isTypeKey member.1)
  return { shape := shape, metadata := parts.metadata.getD [] }

/-- How many nodes may stand below one another. -/
def greatestDepth : Nat :=
  128

/-- A node in a tree that has been read whole, with at most `depth` nodes below one another. -/
def ofSettled : (depth : Nat) → Tree → Except Fault SchemaNode
  | 0, _ => .error (.broken .malformed)
  | depth + 1, tree => do
    match tree with
    | .mapping members _ _ =>
      let parts ← NodeParts.gather pure members {}
      ofParts (ofSettled depth) parts
    | tree => .error (tree.refused "struct SchemaNode")

/-- **A node of a document.**  Its members are read whole up to its end, in the order of the text,
before its shape is looked at. -/
def ofTree (tree : Tree) : Except Fault SchemaNode := do
  let (members, stop) ← tree.members "struct SchemaNode"
  let parts ← NodeParts.gather Tree.settled members {}
  check stop
  ofParts (ofSettled greatestDepth) parts

end SchemaNode

end ApiTypes
