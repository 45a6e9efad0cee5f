import ApiTypes.Json.Basic
import ApiTypes.Name.Words

/-!
# Suggested names

New names for models whose own were made up, by their keys in camel case.

* `Suggestions` — the names suggested by operations, and those forced by the configuration.
* `suggest` — the first suggestion for a key stays.
* `force` — the last forced name for a key counts, and goes before all suggestions.
* `name?` — the name that a key is to take.
-/

namespace ApiTypes

/-- New names of models, by keys in camel case. -/
structure Suggestions where
  suggested : List (String × String) := []
  forced : List (String × String) := []
  deriving DecidableEq, Repr

namespace Suggestions

/-- No names at all. -/
def empty : Suggestions := {}

variable [Spelling]

/-- Suggests a name for a key; whether it is the first one for that key. -/
def suggest (s : Suggestions) (key name : String) : Suggestions × Bool :=
  let key := Name.camelize key
  if Members.has s.suggested key then (s, false)
  else ({ s with suggested := s.suggested ++ [(key, name)] }, true)

/-- Forces a name on a key. -/
def force (s : Suggestions) (key name : String) : Suggestions :=
  { s with forced := Members.put s.forced (Name.camelize key) name }

/-- The name that a key is to take: the forced one, or else the one suggested first. -/
def name? (s : Suggestions) (key : String) : Option String :=
  let key := Name.camelize key
  (Members.get? s.forced key).or (Members.get? s.suggested key)

/-- Whether a name is forced on a key. -/
def isForced (s : Suggestions) (key : String) : Bool :=
  Members.has s.forced (Name.camelize key)

/-- The number of suggested and forced names. -/
def size (s : Suggestions) : Nat :=
  s.suggested.length + s.forced.length

/-- Whether there are no names at all. -/
def isEmpty (s : Suggestions) : Bool :=
  s.suggested.isEmpty && s.forced.isEmpty

end Suggestions

end ApiTypes
