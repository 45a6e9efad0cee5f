import ApiTypes.Name.Reserved
import ApiTypes.Name.Words
import ApiTypes.Text.Blank
import ApiTypes.Text.Pieces

/-!
# Identifiers

The names that generated code gives to the things of a document, made from names in any script by
any spelling.

* `modelName` — class names of models, with the reason when a name had to be escaped.
* `fieldName` — names of fields and parameters.
* `variantName` — names of enum variants.
* `methodName` — names of the methods that call operations.
* `synthesizeOperationId`, `withoutNamespace` — ids of operations.
-/

namespace ApiTypes.Name

open Spelling (snakeCase constantCase)

variable [Spelling]

/-! ## Models -/

/-- Why a model's name was escaped. -/
inductive Adjustment where
  /-- The name is reserved. -/
  | reserved
  /-- The name starts with a digit. -/
  | digitLeading
  deriving DecidableEq, Repr

/-- The class name of a model, and why it was escaped if it was. -/
structure ModelName where
  className : String
  adjustment : Option Adjustment
  deriving DecidableEq, Repr

/-- Whether a text starts with a digit. -/
def startsWithDigit (s : String) : Bool :=
  match s.toList with
  | [] => false
  | c :: _ => c.isDigit

/-- What is wrong with a camelized name as a class name. -/
def adjustmentOf (name : String) : Option Adjustment :=
  if isReservedTypeName name then some .reserved
  else if startsWithDigit name then some .digitLeading
  else none

/-- The class name for a name in camel case.  There is always one: a name without words is called
`UnnamedModel`, and one that is reserved or starts with a digit gets `Model` in front. -/
def ModelName.ofCamelized (name : String) : ModelName :=
  if name.isEmpty then ⟨"UnnamedModel", none⟩
  else match adjustmentOf name with
    | some adjustment => ⟨"Model" ++ name, some adjustment⟩
    | none => ⟨name, none⟩

/-- The class name for a name in any script. -/
def modelName (s : String) : ModelName :=
  .ofCamelized (camelize s)

/-- The class name alone. -/
def className (s : String) : String :=
  (modelName s).className

/-! ## Fields, variants and methods -/

/-- A text with an underscore in front when it starts with a digit. -/
def guardDigit (s : String) : String :=
  if startsWithDigit s then "_" ++ s else s

/-- A name in snake case, before it is escaped. -/
def stem (s : String) : String :=
  String.ofList (snakeCase (sanitizeChars s.toList))

/-- A name in snake case as the name of a field.  Two keywords have names of their own, the others
are marked as raw identifiers, and a name without words is an underscore. -/
def escaped (name : String) : String :=
  if name.isEmpty then "_"
  else if name = "ref" then "git_ref"
  else if name = "self" then "self_"
  else if isKeyword name then "r#" ++ name
  else guardDigit name

/-- The name of a field or parameter. -/
def fieldName (s : String) : String :=
  escaped (stem s)

/-- The name of an enum variant, in constant case; `EMPTY` for a value without words. -/
def variantName (s : String) : String :=
  let name := sanitizeChars s.toList
  if name.isEmpty then "EMPTY" else guardDigit (String.ofList (constantCase name))

/-- A name in snake case as the name of a method.  Keywords get `call_` in front, and a name without
words is `call`. -/
def called (name : String) : String :=
  if name.isEmpty then "call"
  else if isKeyword name then "call_" ++ name
  else guardDigit name

/-- The name of the method that calls an operation. -/
def methodName (operationId : String) : String :=
  called (stem operationId)

/-! ## Operation ids -/

/-- An operation id without a leading namespace: letters and digits up to a slash. -/
def withoutNamespace (operationId : String) : String :=
  let rest := operationId.toList.dropWhile Char.isAlphanum
  match operationId.toList, rest with
  | c :: _, '/' :: tail => if c = '/' then operationId else String.ofList tail
  | _, _ => operationId

/-- A path segment without the braces that open and close a path parameter. -/
def withoutBraces (segment : List Char) : List Char :=
  Text.trimEnd (· = '\x7d') (Text.trimStart (· = '\x7b') segment)

/-- The id of an operation that has none: its method in small letters, and the segments of its
path in camel case, without the braces around path parameters. -/
def synthesizeOperationId (method path : String) : String :=
  let segments := (Text.splitOnChar '/' path.toList).map withoutBraces
  Text.lowerAscii method ++
    String.ofList ((segments.filter (!·.isEmpty)).flatMap camelizeChars)

end ApiTypes.Name
