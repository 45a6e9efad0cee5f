/-!
# Errors of a run

* `ResolveError` — why a run gives no result; `ResolveError.message` is the wording.
* `ResolveError.locate` — the error with the place where it arose.
-/

namespace ApiTypes

/-- One of the two bounds of an integer. -/
inductive BoundKind where
  | minimum
  | maximum
  deriving DecidableEq, Repr

/-- The name of a bound. -/
def BoundKind.name : BoundKind → String
  | .minimum => "minimum"
  | .maximum => "maximum"

/-- Why a run gives no result. -/
inductive ResolveError where
  /-- A reference leads to no model. -/
  | unresolvedReference (name : String)
  /-- A bound of an integer cannot be represented. -/
  | invalidBound (which : BoundKind) (value : Int) (location : Option String)
  deriving DecidableEq, Repr

namespace ResolveError

/-- The wording of an error. -/
def message : ResolveError → String
  | .unresolvedReference name => "unresolved reference to model '" ++ name ++ "'"
  | .invalidBound which value location =>
    "invalid " ++ which.name ++ " bound " ++ toString value ++
      match location with
      | some place => " at '" ++ place ++ "'"
      | none => ""

/-- The error with the place where it arose; a place that is known already stays. -/
def locate (place : String) : ResolveError → ResolveError
  | .invalidBound which value none => .invalidBound which value (some place)
  | error => error

end ResolveError

end ApiTypes
