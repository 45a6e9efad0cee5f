import ApiTypes.Descriptor.Json.Property
import ApiTypes.Descriptor.Model
import ApiTypes.Document.Json

/-!
# Models in JSON

* `ModelFlags.ofTree` — reading flags, in any order.
* `ModelDescriptor.toJson`, `ModelDescriptor.ofTree` — writing and reading a model.
-/

namespace ApiTypes

open Source (Tree Fault)

/-- The names of the flags. -/
def ModelFlag.names : List (String × ModelFlag) :=
  ModelFlag.all.map fun f => (f.name, f)

/-- Flags, in any tree; order and repetition do not count. -/
def ModelFlags.ofTree (tree : Tree) : Except Fault ModelFlags := do
  let flags ← tree.list (Tree.choice ModelFlag.names)
  return flags.foldl ModelFlags.set []

namespace ModelDescriptor

/-- A model as a JSON object. -/
def toJson (m : ModelDescriptor) : Json :=
  .object ([("canonical_key", .string m.key), ("class_name", .string m.className),
    ("origin", .string m.origin.name),
    ("properties", Json.arrayOf PropertyDescriptor.toJson m.properties)] ++
    Json.memberIf "union" UnionOf.toJson m.union ++
    Json.memberIf "data_type" TypeDescriptor.toJson m.type ++
    Json.memberIf "enum_values" EnumDescriptor.toJson m.enumValues ++
    [("flags", Json.arrayOf (fun f : ModelFlag => .string f.name) m.flags)] ++
    extensionsMember m.extensions)

/-- A model that may still lack something. -/
structure Parts where
  key : Option String := none
  className : Option String := none
  origin : Option Origin := none
  /-- The other fields, with a key, a class name and an origin that do not count. -/
  rest : ModelDescriptor := default

/-- A field of a model. -/
def Parts.read (name : String) (value : Tree) (s : Parts) : Except Fault Parts := do
  match name with
  | "canonical_key" => return { s with key := some (← value.string) }
  | "class_name" => return { s with className := some (← value.string) }
  | "origin" => return { s with origin := some (← value.choice Origin.names) }
  | "properties" => return { s with rest.properties := ← value.list PropertyDescriptor.ofTree }
  | "union" => return { s with rest.union := ← value.option UnionOf.ofTree }
  | "data_type" => return { s with rest.type := ← value.option TypeDescriptor.ofTree }
  | "enum_values" => return { s with rest.enumValues := ← value.option EnumDescriptor.ofTree }
  | "flags" => return { s with rest.flags := ← ModelFlags.ofTree value }
  | "vendor_extensions" => return { s with rest.extensions := ← Extensions.ofTree value }
  | _ => return s

/-- A model. -/
def ofTree (tree : Tree) : Except Fault ModelDescriptor := do
  let s ← tree.record "ModelDescriptor"
    [.required "canonical_key", .required "class_name", .required "origin",
      .optionally "properties", .optionally "union", .optionally "data_type",
      .optionally "enum_values", .optionally "flags", .optionally "vendor_extensions"]
    Parts.read {}
  let key ← Tree.need "canonical_key" s.key
  let className ← Tree.need "class_name" s.className
  let origin ← Tree.need "origin" s.origin
  return { s.rest with key := key, className := className, origin := origin }

end ModelDescriptor

end ApiTypes
