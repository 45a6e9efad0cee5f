import ApiTypes.Text.LetterCase

/-!
# Reserved names

The words that generated code cannot use as names.

* `keywords` — words that no identifier can be.
* `takenTypeNames` — names of types that generated code already uses.
* `isReservedTypeName` — what a model's class name must not be.
-/

namespace ApiTypes.Name

/-- Words that are keywords of the generated code, or are kept back for it. -/
def keywords : List String :=
  ["as", "break", "const", "continue", "crate", "else", "enum", "extern", "false", "fn", "for",
    "if", "impl", "in", "let", "loop", "match", "mod", "move", "mut", "pub", "ref", "return",
    "static", "struct", "super", "trait", "true", "type", "unsafe", "use", "where", "while",
    "async", "await", "dyn", "try", "abstract", "become", "box", "do", "final", "macro",
    "override", "priv", "typeof", "unsized", "virtual", "yield", "gen", "self"]

/-- Names of types that generated code imports or derives. -/
def takenTypeNames : List String :=
  ["Box", "Clone", "Copy", "DateTime", "Display", "HashMap", "Option", "Result", "Self", "Send",
    "String", "Sync", "Type", "Utc", "Value", "Vec"]

/-- Whether a text is a keyword, in small letters. -/
def isKeyword (s : String) : Bool :=
  keywords.contains s

/-- Whether a type cannot be called so: the name is taken, or it is a keyword in any letter case. -/
def isReservedTypeName (s : String) : Bool :=
  takenTypeNames.contains s || isKeyword (Text.lowerAscii s)

end ApiTypes.Name
