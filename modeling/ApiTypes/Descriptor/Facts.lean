import ApiTypes.Descriptor.Model

/-!
# Facts for the renderer

What a finished model tells the renderer about itself and its properties.

* `typeFacts` — the facts about the type that an alias or an enum stands for.
* `PropertyDescriptor.withFacts`, `ModelDescriptor.withFacts` — a property and a model with all
  their facts.
-/

namespace ApiTypes

/-- Which of the kinds that the renderer tells apart a type is, if it is one of them. -/
def kindFact? (t : TypeDescriptor) : Option Extension :=
  if t.isList then some .isArray
  else match t.asPrimitive with
    | some .bool => some .isBool
    | some .string => some .isString
    | some .dateTime => some .isDateTime
    | some p => if p.isInteger then some .isInteger else none
    | none => none

/-- The facts about the type that an alias or an enum stands for. -/
def typeFacts (t : TypeDescriptor) : List Extension :=
  match kindFact? t with
  | some fact => [fact, .hasVars]
  | none => []

/-- Whether a type is text without a format of its own. -/
def TypeDescriptor.isText (t : TypeDescriptor) : Bool :=
  t.asPrimitive == some .string

namespace PropertyDescriptor

/-- A property with its facts: whether its name is that of the document, whether it is text, and
whether the empty text is one of its listed values. -/
def withFacts (p : PropertyDescriptor) : PropertyDescriptor :=
  let e := Extensions.flagIf p.extensions .noRename (p.baseName = p.name)
  let e := Extensions.flagIf e .isString p.type.isText
  let e := Extensions.flagIf e .hasEmptyEnum (p.enumValues.any (·.hasEmptyValue))
  { p with extensions := e }

end PropertyDescriptor

namespace ModelDescriptor

/-- The facts about the type that a model stands for, when it is another name for a type or an
enum. -/
def ownTypeFacts (m : ModelDescriptor) : List Extension :=
  if m.flags.contains .alias || m.flags.contains .enum then m.type.toList.flatMap typeFacts else []

/-- The facts about a union. -/
def unionFacts (e : Extensions) (u : UnionDescriptor) : Extensions :=
  let e := Extensions.flag e .oneOf
  let e := Members.insert e Extension.variantCount.key (Json.ofNat u.variantCount)
  Extensions.flagIf e .isDisplay u.isDisplayable

/-- **A model with its facts**, and its properties with theirs. -/
def withFacts (m : ModelDescriptor) : ModelDescriptor :=
  let e := m.ownTypeFacts.foldl Extensions.flag m.extensions
  let e := Extensions.flagIf e .isEnum (m.flags.contains .enum)
  let e := match m.union with
    | some u => unionFacts e u
    | none => e
  let e := Extensions.flagIf e .hasString (m.properties.any (·.type.isText))
  { m with properties := m.properties.map (·.withFacts), extensions := e }

end ModelDescriptor

end ApiTypes
