import ApiTypes.Descriptor.Property
import ApiTypes.Json.Printer
import ApiTypes.Name.Identifier
import ApiTypes.Name.Unique

/-!
# Enums

* `describeEnum` — the enum of a list of values.  Every value but `null` has a variant, and no two
  variants share a name.
-/

namespace ApiTypes

variable [Spelling]

/-- The text of an enum value: strings as they are, other values as JSON on one line.  There is
none for `null`. -/
def enumText? : Json → Option String
  | .null => none
  | .string text => some text
  | value => some value.compact

/-- The variants of texts, whose names differ from each other and from those in use. -/
def enumVariants : (texts : List String) → (used : List String) → List EnumVariant
  | [], _ => []
  | text :: texts, used =>
    let name := Name.unique (Name.variantName text) used
    { name := name, value := text } :: enumVariants texts (name :: used)

/-- **The enum of a list of values.** -/
def describeEnum (name : String) (values : List Json) : EnumDescriptor :=
  { name := name, variants := enumVariants (values.filterMap enumText?) [] }

end ApiTypes
