import ApiTypes.Descriptor.Model
import ApiTypes.Text.Pieces

/-!
# Names inside a model

The enums and the union variants inside a model have names that begin with its class name, and
follow it when it changes.

* `rebase` — a name moved from one beginning to another.
* `ModelDescriptor.rebase` — all names inside a model moved.
* `ModelDescriptor.renamedFrom` — a model after its class name has changed.
-/

namespace ApiTypes

/-- A name moved from one beginning to another.  A name that begins otherwise stays. -/
def rebase (previous current name : String) : String :=
  match Text.afterStart previous.toList name.toList with
  | some rest => current ++ String.ofList rest
  | none => name

/-- An enum with its name moved. -/
def EnumDescriptor.rebase (previous current : String) (e : EnumDescriptor) : EnumDescriptor :=
  { e with name := ApiTypes.rebase previous current e.name }

/-- A union with the names of its variants moved. -/
def UnionOf.rebase (previous current : String) (u : UnionDescriptor) : UnionDescriptor :=
  { u with
    variants := u.variants.map fun v =>
      { v with
        name := ApiTypes.rebase previous current v.name
        baseName := ApiTypes.rebase previous current v.baseName } }

/-- A property with the names of its enum and of its union's variants moved. -/
def PropertyDescriptor.rebase (previous current : String) (p : PropertyDescriptor) :
    PropertyDescriptor :=
  { p with
    enumValues := p.enumValues.map (·.rebase previous current)
    union := p.union.map (·.rebase previous current) }

namespace ModelDescriptor

/-- A model with the names of everything inside it moved. -/
def rebase (previous current : String) (m : ModelDescriptor) : ModelDescriptor :=
  { m with
    enumValues := m.enumValues.map (·.rebase previous current)
    union := m.union.map (·.rebase previous current)
    properties := m.properties.map (·.rebase previous current) }

/-- A model whose class name has changed: the names inside it follow, and it counts as renamed. -/
def renamedFrom (previous : String) (m : ModelDescriptor) : ModelDescriptor :=
  { m.rebase previous m.className with flags := ModelFlags.set m.flags .renamed }

end ModelDescriptor

end ApiTypes
