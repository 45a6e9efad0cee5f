import ApiTypes.Descriptor.Model
import ApiTypes.Name.Identifier
import ApiTypes.Name.Unique
import ApiTypes.Report.Warning

/-!
# The registry of models

The models of a run by their keys, in the order in which they were registered, and the class names
that they hold.  Class names are given out here and nowhere else, so no two models share one.

* `Registry` — the models and the names in use.
* `register`, `install`, `remove` — models come, get their content, and go.
* `rename`, `renameIfFree` — class names change hands.
-/

namespace ApiTypes

/-- The models of a run, and the class names in use. -/
structure Registry where
  models : List (String × ModelDescriptor) := []
  usedNames : List String := []

/-- The class name that a new key got, and what there is to say about it. -/
structure Registration where
  className : String
  warning : Option Warning
  deriving DecidableEq, Repr

namespace Registry

/-! ## Looking up -/

/-- The registry without models. -/
def empty : Registry := {}

/-- The keys, in order. -/
def keys (r : Registry) : List String :=
  Members.names r.models

/-- The model of a key. -/
def get? (r : Registry) (key : String) : Option ModelDescriptor :=
  Members.get? r.models key

/-- Whether a key is registered. -/
def contains (r : Registry) (key : String) : Bool :=
  Members.has r.models key

/-- The class name of a key's model. -/
def className? (r : Registry) (key : String) : Option String :=
  (r.get? key).map (·.className)

/-- Whether a class name is in use. -/
def isTaken (r : Registry) (className : String) : Bool :=
  r.usedNames.contains className

/-- The number of models. -/
def size (r : Registry) : Nat :=
  r.models.length

/-! ## Changing models -/

/-- Changes the model of a key, if there is one. -/
def update (r : Registry) (key : String) (f : ModelDescriptor → ModelDescriptor) : Registry :=
  { r with models := r.models.map fun (k, m) => (k, if k = key then f m else m) }

/-- Changes every model. -/
def mapModels (r : Registry) (f : ModelDescriptor → ModelDescriptor) : Registry :=
  { r with models := r.models.map fun (k, m) => (k, f m) }

/-- The registry after a class name was given back. -/
def release (r : Registry) (className : String) : Registry :=
  { r with usedNames := r.usedNames.filter (· ≠ className) }

/-- Gives the model of a key a class name, which is in use from then on. -/
def assign (r : Registry) (key className : String) : Registry :=
  let r := r.update key fun m => { m with className := className }
  { r with usedNames := className :: r.usedNames }

/-- What there is to say about the class name of a key. -/
def namingWarning (key className : String) : Option Name.Adjustment → Option Warning
  | some .reserved => some (.reservedModelName key className)
  | some .digitLeading => some (.digitLeadingModelName key className)
  | none => none

/-- Registers a key: its model gets a class name that is not in use.  A key that is registered
already keeps its model. -/
def register [Spelling] (r : Registry) (key : String) (origin : Origin) : Registry × Registration :=
  match r.className? key with
  | some className => (r, ⟨className, none⟩)
  | none =>
    let name := Name.modelName key
    let className := Name.unique name.className r.usedNames
    let model : ModelDescriptor := { key := key, className := className, origin := origin }
    ({ models := r.models ++ [(key, model)], usedNames := className :: r.usedNames },
      ⟨className, namingWarning key className name.adjustment⟩)

/-- Replaces the model of a registered key.  The class name and the origin stay. -/
def install (r : Registry) (model : ModelDescriptor) : Registry :=
  r.update model.key fun m => { model with className := m.className, origin := m.origin }

/-! ## Changing names -/

/-- Gives a model the class name made from a desired name, with a number when another model holds
it.  The result is the new class name; there is none for an unknown key. -/
def rename [Spelling] (r : Registry) (key desired : String) : Registry × Option String :=
  match r.className? key with
  | none => (r, none)
  | some current =>
    let base := Name.className desired
    if base = current then (r, some current)
    else
      let r := r.release current
      let className := Name.unique base r.usedNames
      (r.assign key className, some className)

/-- Gives a model a class name if no other model holds it; whether the model has it then. -/
def renameIfFree (r : Registry) (key className : String) : Registry × Bool :=
  match r.className? key with
  | none => (r, false)
  | some current =>
    if current = className then (r, true)
    else if r.isTaken className then (r, false)
    else ((r.release current).assign key className, true)

/-- Takes a model out; its class name is free again. -/
def remove (r : Registry) (key : String) : Registry × Option ModelDescriptor :=
  match r.get? key with
  | none => (r, none)
  | some model =>
    ({ r with models := r.models.filter fun entry => entry.1 ≠ key }.release model.className,
      some model)

/-- Taking a model out makes the registry no larger. -/
theorem size_remove_le (r : Registry) (key : String) : (r.remove key).1.size ≤ r.size := by
  unfold remove
  split
  · exact Nat.le_refl _
  · exact List.length_filter_le _ _

/-- Taking out a model that is there makes the registry smaller. -/
theorem size_remove_lt {r : Registry} {key : String} (h : key ∈ r.keys) :
    (r.remove key).1.size < r.size := by
  obtain ⟨entry, hm, rfl⟩ := List.mem_map.1 h
  unfold remove get? Members.get?
  cases hf : r.models.find? (·.1 == entry.1) with
  | none => exact absurd (List.find?_eq_none.1 hf entry hm) (by simp)
  | some found => exact List.length_filter_lt_length_iff_exists.2 ⟨entry, hm, by simp⟩

/-- The models by their class names, in order. -/
def byClassName (r : Registry) : List (String × ModelDescriptor) :=
  r.models.foldl (fun found (_, m) => Members.put found m.className m) []

end Registry

end ApiTypes
