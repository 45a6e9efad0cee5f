import ApiTypes.Report.Error
import ApiTypes.Report.Warning

/-!
# Resolving

The outcome of a step of a run: an error, or a value with the warnings that came up on the way.

* `Resolving` — outcomes, as a monad that keeps warnings in order and stops at the first error.
* `warn`, `warnAll`, `failWith`, `located` — raising warnings, stopping, and telling the place of an
  error.
-/

namespace ApiTypes

/-- The outcome of a step: an error, or a value with the warnings of the step, in order. -/
def Resolving (α : Type) : Type :=
  Except ResolveError (α × List Warning)

namespace Resolving

/-- A value without warnings. -/
def pure {α : Type} (value : α) : Resolving α :=
  .ok (value, [])

/-- One step after another.  The warnings of the first come first. -/
def bind {α β : Type} (x : Resolving α) (f : α → Resolving β) : Resolving β :=
  match x with
  | .error e => .error e
  | .ok (value, warnings) =>
    match f value with
    | .error e => .error e
    | .ok (value, more) => .ok (value, warnings ++ more)

instance : Monad Resolving where
  pure := Resolving.pure
  bind := Resolving.bind

/-- Raises a warning. -/
def warn (w : Warning) : Resolving Unit :=
  .ok ((), [w])

/-- Raises warnings, in order. -/
def warnAll (ws : List Warning) : Resolving Unit :=
  .ok ((), ws)

/-- Stops with an error. -/
def failWith {α : Type} (e : ResolveError) : Resolving α :=
  .error e

/-- The outcome of something that raises no warnings, with the place of an error told. -/
def located {α : Type} (place : String) : Except ResolveError α → Resolving α
  | .ok value => .ok (value, [])
  | .error e => .error (e.locate place)

end Resolving

end ApiTypes
