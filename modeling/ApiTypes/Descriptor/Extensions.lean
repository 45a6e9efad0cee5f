import ApiTypes.Descriptor.Basic
import ApiTypes.Json.Basic

/-!
# Extensions for the renderer

Facts about the parts of a result, under names that the renderer knows.

* `Extensions` — named values, in the order of their names.
* `Extension` — the names that a run gives values to; `Extension.key` is their spelling.
* `Extensions.flag`, `Extensions.isFlagged` — marking, and whether something is marked.
-/

namespace ApiTypes

/-- Named facts for the renderer, in the order of their names. -/
abbrev Extensions := List (String × Json)

/-- The facts that a run tells the renderer. -/
inductive Extension where
  | hasVars
  | isEnum
  | isBool
  | isInteger
  | isString
  | isDateTime
  | isArray
  | hasString
  | hasEmptyEnum
  | noRename
  | oneOf
  | isDisplay
  | variantCount
  | bodyModel
  | isContainer
  | isListContainer
  | isMapContainer
  | isObject
  | perPage
  | optionalQueryParams
  | stringParams
  | emptyDefault
  | bodyBytes
  | previews
  deriving DecidableEq, Repr

/-- The spelling of a fact's name. -/
def Extension.key : Extension → String
  | .hasVars => "has-vars"
  | .isEnum => "is-enum"
  | .isBool => "x-rustgen-is-bool"
  | .isInteger => "x-rustgen-is-integer"
  | .isString => "x-rustgen-is-string"
  | .isDateTime => "x-rustgen-is-datetime"
  | .isArray => "x-rustgen-is-array"
  | .hasString => "x-rustgen-has-string"
  | .hasEmptyEnum => "x-rustgen-has-empty-enum"
  | .noRename => "x-rustgen-serde-no-rename"
  | .oneOf => "x-rustgen-enum-one-of"
  | .isDisplay => "x-rustgen-is-display"
  | .variantCount => "x-rustgen-variant-count"
  | .bodyModel => "x-rustgen-body-model"
  | .isContainer => "x-is-container"
  | .isListContainer => "x-is-list-container"
  | .isMapContainer => "x-is-map-container"
  | .isObject => "x-is-object"
  | .perPage => "x-codegen-impl-per-page"
  | .optionalQueryParams => "x-codegen-has-optional-query-params"
  | .stringParams => "x-codegen-has-string-params"
  | .emptyDefault => "x-codegen-response-empty-default"
  | .bodyBytes => "x-codegen-body-bytes"
  | .previews => "x-codegen-has-previews"

namespace Extensions

/-- Marks a name as true. -/
def flagKey (e : Extensions) (key : String) : Extensions :=
  Members.insert e key (.bool true)

/-- Marks a fact as true. -/
def flag (e : Extensions) (x : Extension) : Extensions :=
  flagKey e x.key

/-- Marks a fact as true under a condition. -/
def flagIf (e : Extensions) (x : Extension) (condition : Bool) : Extensions :=
  if condition then flag e x else e

/-- Whether a name is marked as true. -/
def isFlagged (e : Extensions) (key : String) : Bool :=
  (Members.get? e key).any Json.isTrue

/-- Marks a container as what it is. -/
def flagContainer (e : Extensions) (t : TypeDescriptor) : Extensions :=
  if t.isMap then flag (flag e .isContainer) .isMapContainer
  else if t.isList then flag (flag e .isContainer) .isListContainer
  else e

end Extensions

end ApiTypes
