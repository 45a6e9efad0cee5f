import ApiTypes.Descriptor.Property
import ApiTypes.Document.Basic

/-!
# Models

* `ModelDescriptor` — a model as the renderer sees it.
* `ModelFlag`, `ModelFlags` — what kind of model it is, and what has happened to it.
* `ModelDescriptor.types`, `ModelDescriptor.mapTypes` — the types in a model, read and changed.
-/

namespace ApiTypes

/-- What kind of model a model is, and what has happened to it. -/
inductive ModelFlag where
  /-- Named fields. -/
  | record
  /-- Another name for a type. -/
  | alias
  | enum
  | union
  /-- A record that also allows undeclared fields. -/
  | mapLike
  /-- A request body that was named after its operation. -/
  | bodyModel
  /-- The class name was changed. -/
  | renamed
  deriving DecidableEq, Repr

/-- All flags in their order. -/
def ModelFlag.all : List ModelFlag :=
  [.record, .alias, .enum, .union, .mapLike, .bodyModel, .renamed]

/-- The name of a flag. -/
def ModelFlag.name : ModelFlag → String
  | .record => "record"
  | .alias => "alias"
  | .enum => "enum"
  | .union => "union"
  | .mapLike => "map_like"
  | .bodyModel => "body_model"
  | .renamed => "renamed"

/-- The flags of a model, each once and in their order. -/
abbrev ModelFlags := List ModelFlag

/-- The flags with one more. -/
def ModelFlags.set (flags : ModelFlags) (flag : ModelFlag) : ModelFlags :=
  ModelFlag.all.filter fun f => f = flag || flags.contains f

/-- A model as the renderer sees it. -/
structure ModelDescriptor where
  /-- The key of the model in the document. -/
  key : String
  className : String
  origin : Origin
  properties : List PropertyDescriptor := []
  union : Option UnionDescriptor := none
  /-- The type that the model stands for, if it stands for one. -/
  type : Option TypeDescriptor := none
  enumValues : Option EnumDescriptor := none
  flags : ModelFlags := []
  extensions : Extensions := []

instance : Inhabited ModelDescriptor := ⟨{ key := "", className := "", origin := .declared }⟩

namespace ModelDescriptor

/-- Whether a model is a union. -/
def isUnion (m : ModelDescriptor) : Bool :=
  m.flags.contains .union

/-- The variants of a model's union. -/
def variants (m : ModelDescriptor) : List PropertyDescriptor :=
  match m.union with
  | some union => union.variants
  | none => []

/-- The types in a model: the type that it stands for, those of its properties, and those of the
variants of its union. -/
def types (m : ModelDescriptor) : List TypeDescriptor :=
  m.type.toList ++ m.properties.flatMap (·.types) ++ m.variants.flatMap (·.types)

/-- The model with each of its types changed. -/
def mapTypes (f : TypeDescriptor → TypeDescriptor) (m : ModelDescriptor) : ModelDescriptor :=
  { m with
    type := m.type.map f
    properties := m.properties.map (·.mapTypes f)
    union := m.union.map fun u => { u with variants := u.variants.map (·.mapTypes f) } }

/-- The keys of the models that a model refers to. -/
def references (m : ModelDescriptor) : List String :=
  m.types.flatMap (·.references)

end ModelDescriptor

end ApiTypes
