import ApiTypes.Document.Json
import ApiTypes.Json.Reader
import ApiTypes.Text.LetterCase
import ApiTypes.Text.Pieces
import ApiTypes.Yaml.Reader

/-!
# Formats of documents

* `Format` — the two formats that documents are written in, and how a file's name tells them.
* `Format.parse` — the document that a text in a format stands for.
-/

namespace ApiTypes

open Source (Fault check)

/-- The formats that documents are written in. -/
inductive Format where
  | json
  | yaml
  deriving DecidableEq, Repr

/-- Why a text is not a document. -/
inductive ParseError where
  | json (fault : Fault)
  | yaml

namespace Format

/-- The format of files with an extension, in any letter case. -/
def ofExtension (extension : String) : Format :=
  if ["yaml", "yml"].contains (Text.lowerAscii extension) then .yaml else .json

/-- The name of the file or folder that a path leads to.  Empty parts and dots alone lead nowhere
else; there is none when the path ends by going up. -/
def fileName? (path : String) : Option (List Char) :=
  let parts := (Text.splitOnChar '/' path.toList).filter fun part => !part.isEmpty && part ≠ ['.']
  match parts.getLast? with
  | some ['.', '.'] => none
  | last => last

/-- What follows the last dot of a file's name, unless that dot is its first character. -/
def extension? (name : List Char) : Option String :=
  match (Text.splitOnChar '.' name).reverse with
  | _ :: [] => none
  | [] => none
  | [_, []] => none
  | last :: _ => some (String.ofList last)

/-- The format of a file, by the extension of its name. -/
def ofPath (path : String) : Format :=
  match (fileName? path).bind extension? with
  | some extension => ofExtension extension
  | none => .json

/-- The name of a format. -/
def name : Format → String
  | .json => "Json"
  | .yaml => "Yaml"

/-- A value decoded from JSON text, with nothing behind it in the text. -/
def decodeJson {α : Type} (decode : Source.Tree → Except Fault α) (text : String) :
    Except Fault α := do
  let document := Json.read text
  let value ← decode document.root
  check document.trailing
  return value

/-- **The document that a text stands for.** -/
def parse (format : Format) (text : String) : Except ParseError ApiDocument :=
  match format with
  | .json => (decodeJson ApiDocument.ofTree text).mapError .json
  | .yaml =>
    match Yaml.read text with
    | none => .error .yaml
    | some tree => (ApiDocument.ofTree tree).mapError fun _ => .yaml

end Format

end ApiTypes
