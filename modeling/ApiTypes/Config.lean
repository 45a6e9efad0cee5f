import ApiTypes.Json.Basic

/-!
# Configuration of a run

* `Config` — the choices that a run leaves to its caller.
-/

namespace ApiTypes

/-- The choices of a run. -/
structure Config where
  /-- Whether integers without bounds are as wide as an address. -/
  addressSizedIntegers : Bool := true
  /-- Keys of request bodies that keep the names that were made up for them. -/
  excludedBodies : List String := []
  /-- New names of response types, by their class names. -/
  responseNames : List (String × String) := []
  /-- The tag of operations without tags. -/
  defaultTag : String := "default"
  /-- Whether ids of operations lose their namespace. -/
  stripNamespace : Bool := true
  deriving DecidableEq, Repr

namespace Config

/-- The new name of a response type. -/
def responseName? (c : Config) (className : String) : Option String :=
  Members.get? c.responseNames className

/-- Whether the body model of a key keeps its name. -/
def excludesBody (c : Config) (key : String) : Bool :=
  c.excludedBodies.contains key

end Config

end ApiTypes
