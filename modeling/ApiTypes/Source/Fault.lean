import ApiTypes.Json.Printer
import ApiTypes.Text.Quoted

/-!
# Faults of a source text

Why a text could not be read as the value that was wanted.

* `Break` — the text itself is broken: it ends too early or is malformed.
* `Mismatch` — the text is well formed so far, but what it says does not fit.
* `Fault` — either of the two; `Mismatch.message` is the wording.
-/

namespace ApiTypes.Source

/-- How a text breaks off. -/
inductive Break where
  /-- The text ends where more is needed. -/
  | endOfText
  /-- The text goes on in a way that it cannot. -/
  | malformed
  deriving DecidableEq, Repr

/-- What stands where something else was wanted. -/
inductive Found where
  | null
  | boolean (value : Bool)
  | integer (value : Int)
  | floating (value : Float)
  | string (value : String)
  | sequence
  | map

/-- A thing that was found, as a message names it. -/
def Found.message : Found → String
  | .null => "null"
  | .boolean true => "boolean `true`"
  | .boolean false => "boolean `false`"
  | .integer value => "integer `" ++ String.ofList (intChars value) ++ "`"
  | .floating value => "floating point `" ++ floatText value ++ "`"
  | .string value => "string " ++ Text.quoted value
  | .sequence => "sequence"
  | .map => "map"

/-- What does not fit in a text that is well formed so far. -/
inductive Mismatch where
  /-- Something of another kind stands there. -/
  | wrongType (found : Found) (wanted : String)
  /-- Something of the right kind stands there, with a value that is not allowed. -/
  | wrongValue (found : Found) (wanted : String)
  /-- A list of fields is too short. -/
  | wrongLength (length : Nat) (wanted : String)
  /-- A field that has to be there is not. -/
  | missingField (name : String)
  /-- A field is given twice. -/
  | duplicateField (name : String)
  /-- A choice names none of its possibilities. -/
  | unknownVariant (name : String) (known : List String)
  /-- None of the forms that a value may take fits. -/
  | noForm (type : String)

/-- A list of possibilities as a message gives it. -/
def alternatives : List String → String
  | [] => "there are no variants"
  | [a] => "expected `" ++ a ++ "`"
  | [a, b] => "expected `" ++ a ++ "` or `" ++ b ++ "`"
  | names => "expected one of " ++ ", ".intercalate (names.map fun n => "`" ++ n ++ "`")

/-- The wording of a mismatch. -/
def Mismatch.message : Mismatch → String
  | .wrongType found wanted => "invalid type: " ++ found.message ++ ", expected " ++ wanted
  | .wrongValue found wanted => "invalid value: " ++ found.message ++ ", expected " ++ wanted
  | .wrongLength length wanted => "invalid length " ++ length.repr ++ ", expected " ++ wanted
  | .missingField name => "missing field `" ++ name ++ "`"
  | .duplicateField name => "duplicate field `" ++ name ++ "`"
  | .unknownVariant name known => "unknown variant `" ++ name ++ "`, " ++ alternatives known
  | .noForm type => "data did not match any variant of untagged enum " ++ type

/-- Why a text could not be read as what was wanted: the first reason in reading order. -/
inductive Fault where
  | broken (how : Break)
  | mismatch (what : Mismatch)

end ApiTypes.Source
