import ApiTypes.Descriptor.Json.Type
import ApiTypes.Descriptor.Property

/-!
# Properties in JSON

* `EnumDescriptor.toJson`, `EnumDescriptor.ofTree` — writing and reading an enum.
* `UnionOf.toJson`, `UnionOf.ofTree` — a union.
* `PropertyDescriptor.toJson`, `PropertyDescriptor.ofTree` — a property, with those inside it.
-/

namespace ApiTypes

open Source (Tree Fault)
open Source.Tree (Field)

/-! ## Enums -/

/-- A variant of an enum as a JSON object. -/
def EnumVariant.toJson (v : EnumVariant) : Json :=
  .object [("name", .string v.name), ("value", .string v.value)]

/-- A variant of an enum. -/
def EnumVariant.ofTree (tree : Tree) : Except Fault EnumVariant := do
  let read (name : String) (value : Tree) (s : Option String × Option String) := do
    let text ← value.string
    return if name = "name" then (some text, s.2) else (s.1, some text)
  let s ← tree.record "EnumVariant" [.required "name", .required "value"] read (none, none)
  let name ← Tree.need "name" s.1
  let value ← Tree.need "value" s.2
  return { name := name, value := value }

/-- An enum as a JSON object. -/
def EnumDescriptor.toJson (e : EnumDescriptor) : Json :=
  .object [("name", .string e.name), ("variants", Json.arrayOf EnumVariant.toJson e.variants)]

/-- A field of an enum. -/
def EnumDescriptor.read (name : String) (value : Tree)
    (s : Option String × Option (List EnumVariant)) :
    Except Fault (Option String × Option (List EnumVariant)) := do
  if name = "name" then return (some (← value.string), s.2)
  else return (s.1, some (← value.list EnumVariant.ofTree))

/-- An enum. -/
def EnumDescriptor.ofTree (tree : Tree) : Except Fault EnumDescriptor := do
  let s ← tree.record "EnumDescriptor" [.required "name", .required "variants"]
    EnumDescriptor.read (none, none)
  let name ← Tree.need "name" s.1
  let variants ← Tree.need "variants" s.2
  return { name := name, variants := variants }

/-! ## Properties and unions -/

/-- A union as a JSON object, from its variants as JSON values. -/
def unionJson (variants : List Json) (isDisplayable : Bool) (variantCount : Nat) : Json :=
  .object [("variants", .array variants), ("is_displayable", .bool isDisplayable),
    ("variant_count", Json.ofNat variantCount)]

namespace PropertyDescriptor

/-- The members of a property before its union. -/
def membersBefore (name baseName : String) (type : TypeDescriptor) (items : Option TypeDescriptor)
    (required : Bool) (enumValues : Option EnumDescriptor) : List (String × Json) :=
  [("name", .string name), ("base_name", .string baseName), ("type", type.toJson)] ++
    Json.memberIf "items" TypeDescriptor.toJson items ++ [("required", .bool required)] ++
    Json.memberIf "enum_values" EnumDescriptor.toJson enumValues

mutual

/-- A property as a JSON object. -/
def toJson : PropertyDescriptor → Json
  | ⟨name, baseName, type, items, required, enumValues, none, extensions⟩ =>
    .object (membersBefore name baseName type items required enumValues ++
      extensionsMember extensions)
  | ⟨name, baseName, type, items, required, enumValues, some ⟨variants, isDisplayable, count⟩,
      extensions⟩ =>
    .object (membersBefore name baseName type items required enumValues ++
      ("union", unionJson (toJsonAll variants) isDisplayable count) :: extensionsMember extensions)
termination_by structural p => p

/-- Properties as JSON objects, in order. -/
def toJsonAll : List PropertyDescriptor → List Json
  | [] => []
  | p :: ps => toJson p :: toJsonAll ps
termination_by structural ps => ps

end

end PropertyDescriptor

/-- A union as a JSON object. -/
def UnionOf.toJson (u : UnionDescriptor) : Json :=
  unionJson (u.variants.map PropertyDescriptor.toJson) u.isDisplayable u.variantCount

/-- A union that may still lack something. -/
structure UnionDescriptorParts where
  variants : Option (List PropertyDescriptor) := none
  isDisplayable : Option Bool := none
  variantCount : Option Nat := none

/-- A field of a union. -/
def UnionDescriptorParts.read (decode : Tree → Except Fault PropertyDescriptor) (name : String)
    (value : Tree) (s : UnionDescriptorParts) : Except Fault UnionDescriptorParts := do
  match name with
  | "variants" => return { s with variants := some (← value.list decode) }
  | "is_displayable" => return { s with isDisplayable := some (← value.bool) }
  | "variant_count" => return { s with variantCount := some (← value.natWord) }
  | _ => return s

/-- A union, from a way to read its variants. -/
def UnionOf.ofTreeWith (decode : Tree → Except Fault PropertyDescriptor) (tree : Tree) :
    Except Fault UnionDescriptor := do
  let s ← tree.record "UnionDescriptor"
    [.required "variants", .required "is_displayable", .required "variant_count"]
    (UnionDescriptorParts.read decode) {}
  let variants ← Tree.need "variants" s.variants
  let isDisplayable ← Tree.need "is_displayable" s.isDisplayable
  let variantCount ← Tree.need "variant_count" s.variantCount
  return ⟨variants, isDisplayable, variantCount⟩

namespace PropertyDescriptor

/-- A property that may still lack something. -/
structure Parts where
  name : Option String := none
  baseName : Option String := none
  type : Option TypeDescriptor := none
  items : Option TypeDescriptor := none
  required : Bool := false
  enumValues : Option EnumDescriptor := none
  union : Option UnionDescriptor := none
  extensions : Extensions := []

/-- A field of a property. -/
def Parts.read (decode : Tree → Except Fault PropertyDescriptor) (name : String) (value : Tree)
    (s : Parts) : Except Fault Parts := do
  match name with
  | "name" => return { s with name := some (← value.string) }
  | "base_name" => return { s with baseName := some (← value.string) }
  | "type" => return { s with type := some (← TypeDescriptor.ofTree value) }
  | "items" => return { s with items := ← value.option TypeDescriptor.ofTree }
  | "required" => return { s with required := ← value.bool }
  | "enum_values" => return { s with enumValues := ← value.option EnumDescriptor.ofTree }
  | "union" => return { s with union := ← value.option (UnionOf.ofTreeWith decode) }
  | "vendor_extensions" => return { s with extensions := ← Extensions.ofTree value }
  | _ => return s

/-- The fields of a property. -/
def fields : List Field :=
  [.required "name", .required "base_name", .required "type", .optionally "items",
    .optionally "required", .optionally "enum_values", .optionally "union",
    .optionally "vendor_extensions"]

/-- A property, with at most `depth` properties inside one another. -/
def ofTreeWithin : (depth : Nat) → Tree → Except Fault PropertyDescriptor
  | 0, _ => .error (.broken .malformed)
  | depth + 1, tree => do
    let s ← tree.record "PropertyDescriptor" fields (Parts.read (ofTreeWithin depth)) {}
    let name ← Tree.need "name" s.name
    let baseName ← Tree.need "base_name" s.baseName
    let type ← Tree.need "type" s.type
    return ⟨name, baseName, type, s.items, s.required, s.enumValues, s.union, s.extensions⟩

/-- A property. -/
def ofTree (tree : Tree) : Except Fault PropertyDescriptor :=
  ofTreeWithin greatestNesting tree

end PropertyDescriptor

/-- A union. -/
def UnionOf.ofTree (tree : Tree) : Except Fault UnionDescriptor :=
  UnionOf.ofTreeWith PropertyDescriptor.ofTree tree

end ApiTypes
