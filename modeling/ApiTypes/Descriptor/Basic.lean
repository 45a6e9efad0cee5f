import ApiTypes.Descriptor.Primitive
import ApiTypes.Text.Blank

/-!
# Type descriptors

The resolved type of a value: a primitive type, a reference to a model, or a list or map of an
inner type.  The name of a type is kept with it; the key of a model it refers to is kept too, so
that names can be made anew after models were renamed.

* `TypeDescriptor` — a type, with `primitive`, `model`, `listOf` and `mapOf` to make one.
* `TypeDescriptor.layers` — a type and the types inside it, from outside in.
* `TypeDescriptor.canonicalName`, `sameType` — when two types count as the same.
* `TypeDescriptor.relabel` — the type with its names made anew.
-/

namespace ApiTypes

/-- The type of a value. -/
structure TypeDescriptor where
  name : String
  isContainer : Bool
  isMap : Bool
  isPrimitive : Bool
  isDisplayable : Bool
  format : Option String := none
  /-- The key of the model that the type refers to. -/
  reference : Option String := none
  /-- The type of the values in a container. -/
  inner : Option TypeDescriptor := none
  /-- Whether the type was made up for a list that says nothing about its items. -/
  synthesized : Bool := false

namespace TypeDescriptor

/-! ## Making types -/

/-- A primitive type. -/
def primitive (p : Primitive) : TypeDescriptor :=
  { name := p.name
    isContainer := false
    isMap := false
    isPrimitive := p ≠ .value
    isDisplayable := p.isDisplayable }

instance : Inhabited TypeDescriptor := ⟨primitive .value⟩

/-- The type of any value: for empty schemas, and shapes that fit no other type. -/
def dynamic : TypeDescriptor :=
  primitive .value

/-- A reference to a model, under its class name. -/
def model (key className : String) : TypeDescriptor :=
  { name := className
    isContainer := false
    isMap := false
    isPrimitive := false
    isDisplayable := false
    reference := some key }

/-- The name of a list, from the name of its items. -/
def listName (inner : String) : String :=
  "Vec<" ++ inner ++ ">"

/-- The name of a map, from the name of its values. -/
def mapName (inner : String) : String :=
  "HashMap<String, " ++ inner ++ ">"

/-- A list of values of a type. -/
def listOf (inner : TypeDescriptor) : TypeDescriptor :=
  { name := listName inner.name
    isContainer := true
    isMap := false
    isPrimitive := false
    isDisplayable := false
    inner := some inner }

/-- A map from strings to values of a type. -/
def mapOf (inner : TypeDescriptor) : TypeDescriptor :=
  { name := mapName inner.name
    isContainer := true
    isMap := true
    isPrimitive := false
    isDisplayable := false
    inner := some inner }

/-- The type with a format. -/
def withFormat (t : TypeDescriptor) (format : Option String) : TypeDescriptor :=
  { t with format := format }

/-- The type, marked as made up. -/
def asSynthesized (t : TypeDescriptor) : TypeDescriptor :=
  { t with synthesized := true }

/-! ## Facts -/

/-- Whether a type is a container but no map. -/
def isList (t : TypeDescriptor) : Bool :=
  t.isContainer && !t.isMap

/-- Whether a type has the name of the type of any value. -/
def isDynamic (t : TypeDescriptor) : Bool :=
  t.name == Primitive.value.name

/-- The primitive type that a type is, when it is neither a reference nor a container. -/
def asPrimitive (t : TypeDescriptor) : Option Primitive :=
  if t.reference.isSome || t.isContainer then none else Primitive.ofName? t.name

/-- The items of a type when it is a list. -/
def items (t : TypeDescriptor) : Option TypeDescriptor :=
  if t.isList then t.inner else none

/-- A type and the types inside it, from outside in. -/
def layers : TypeDescriptor → List TypeDescriptor
  | t@⟨_, _, _, _, _, _, _, none, _⟩ => [t]
  | t@⟨_, _, _, _, _, _, _, some inner, _⟩ => t :: inner.layers
termination_by structural t => t

/-- The keys of the models that a type refers to, from outside in. -/
def references (t : TypeDescriptor) : List String :=
  t.layers.filterMap (·.reference)

/-! ## Comparing types -/

/-- A text without the occurrences of a part, found from the left. -/
def removeAll (part : List Char) : List Char → List Char
  | [] => []
  | c :: cs =>
    if part.isPrefixOf (c :: cs) && !part.isEmpty then removeAll part (cs.drop (part.length - 1))
    else c :: removeAll part cs
termination_by cs => cs.length

/-- The name that types are compared by: without blanks, and without the qualifier of models. -/
def canonicalName (t : TypeDescriptor) : String :=
  String.ofList (removeAll "models::".toList (t.name.toList.filter fun c => !Text.isBlank c))

/-- Whether two types count as the same. -/
def sameType (t u : TypeDescriptor) : Bool :=
  t.canonicalName == u.canonicalName

/-! ## Names made anew -/

/-- **The type with its names made anew** from the class names of models by their keys.  A
reference to a model without a class name becomes the type of any value; its key comes with the
result. -/
def relabel (classNames : String → Option String) :
    TypeDescriptor → TypeDescriptor × Option String
  | ⟨_, isContainer, isMap, isPrimitive, isDisplayable, format, reference, some inner,
      synthesized⟩ =>
    let (inner, dangling) := inner.relabel classNames
    (⟨if isMap then mapName inner.name else listName inner.name, isContainer, isMap, isPrimitive,
      isDisplayable, format, reference, some inner, synthesized⟩, dangling)
  | ⟨_, isContainer, isMap, isPrimitive, isDisplayable, format, some key, none, synthesized⟩ =>
    match classNames key with
    | some className =>
      (⟨className, isContainer, isMap, isPrimitive, isDisplayable, format, some key, none,
        synthesized⟩, none)
    | none => (dynamic, some key)
  | t@⟨_, _, _, _, _, _, none, none, _⟩ => (t, none)
termination_by structural t => t

end TypeDescriptor

end ApiTypes
