import ApiTypes.Descriptor.Extensions
import ApiTypes.Schema.Json

/-!
# Types in JSON

* `TypeDescriptor.toJson`, `TypeDescriptor.ofTree` — writing and reading a type.
* `Extensions.ofTree` — reading extensions, which are written as they are.
-/

namespace ApiTypes

open Source (Tree Fault)
open Source.Tree (Field)

/-- The number of descriptors that may be nested in one another. -/
def greatestNesting : Nat :=
  128

/-- The member of the extensions, there only when there are any. -/
def extensionsMember (e : Extensions) : List (String × Json) :=
  if e.isEmpty then [] else [("vendor_extensions", .object e)]

/-- Extensions, in any tree. -/
def Extensions.ofTree (tree : Tree) : Except Fault Extensions :=
  tree.sorted Tree.json

namespace TypeDescriptor

/-- A type as a JSON object. -/
def toJson : TypeDescriptor → Json
  | ⟨name, isContainer, isMap, isPrimitive, isDisplayable, format, reference, none, synthesized⟩ =>
    .object (before name isContainer isMap isPrimitive isDisplayable format reference ++
      after synthesized)
  | ⟨name, isContainer, isMap, isPrimitive, isDisplayable, format, reference, some inner,
      synthesized⟩ =>
    .object (before name isContainer isMap isPrimitive isDisplayable format reference ++
      ("inner", inner.toJson) :: after synthesized)
termination_by structural t => t
where
  /-- The members before the inner type. -/
  before (name : String) (isContainer isMap isPrimitive isDisplayable : Bool)
      (format reference : Option String) : List (String × Json) :=
    [("name", .string name), ("is_container", .bool isContainer), ("is_map", .bool isMap),
      ("is_primitive", .bool isPrimitive), ("is_displayable", .bool isDisplayable)] ++
      Json.memberIf "format" .string format ++ Json.memberIf "reference" .string reference
  /-- The members after the inner type. -/
  after (synthesized : Bool) : List (String × Json) :=
    if synthesized then [("synthesized", .bool true)] else []

/-- A type that may still lack something. -/
structure Parts where
  name : Option String := none
  isContainer : Option Bool := none
  isMap : Option Bool := none
  isPrimitive : Option Bool := none
  isDisplayable : Option Bool := none
  format : Option String := none
  reference : Option String := none
  inner : Option TypeDescriptor := none
  synthesized : Bool := false

/-- A field of a type. -/
def Parts.read (decode : Tree → Except Fault TypeDescriptor) (name : String) (value : Tree)
    (s : Parts) : Except Fault Parts := do
  match name with
  | "name" => return { s with name := some (← value.string) }
  | "is_container" => return { s with isContainer := some (← value.bool) }
  | "is_map" => return { s with isMap := some (← value.bool) }
  | "is_primitive" => return { s with isPrimitive := some (← value.bool) }
  | "is_displayable" => return { s with isDisplayable := some (← value.bool) }
  | "format" => return { s with format := ← value.option Tree.string }
  | "reference" => return { s with reference := ← value.option Tree.string }
  | "inner" => return { s with inner := ← value.option decode }
  | "synthesized" => return { s with synthesized := ← value.bool }
  | _ => return s

/-- The fields of a type. -/
def fields : List Field :=
  [.required "name", .required "is_container", .required "is_map", .required "is_primitive",
    .required "is_displayable", .optionally "format", .optionally "reference", .optionally "inner",
    .optionally "synthesized"]

/-- A type, with at most `depth` types inside one another. -/
def ofTreeWithin : (depth : Nat) → Tree → Except Fault TypeDescriptor
  | 0, _ => .error (.broken .malformed)
  | depth + 1, tree => do
    let s ← tree.record "TypeDescriptor" fields (Parts.read (ofTreeWithin depth)) {}
    let name ← Tree.need "name" s.name
    let isContainer ← Tree.need "is_container" s.isContainer
    let isMap ← Tree.need "is_map" s.isMap
    let isPrimitive ← Tree.need "is_primitive" s.isPrimitive
    let isDisplayable ← Tree.need "is_displayable" s.isDisplayable
    return ⟨name, isContainer, isMap, isPrimitive, isDisplayable, s.format, s.reference, s.inner,
      s.synthesized⟩

/-- A type. -/
def ofTree (tree : Tree) : Except Fault TypeDescriptor :=
  ofTreeWithin greatestNesting tree

end TypeDescriptor

end ApiTypes
