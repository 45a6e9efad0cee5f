import ApiTypes.Descriptor.Operation
import ApiTypes.Naming.Registry

/-!
# Relabelling

After the last model has its class name, the names of all types are made anew.  A type that refers
to a model which was left out becomes the type of any value, with a warning.

* `relabelType` — a type with its names made anew.
* `danglingWarnings` — the warnings for the types of a model or an operation.
* `Registry.relabel`, `OperationDescriptor.relabel` — models and operations with all their types
  made anew.
-/

namespace ApiTypes

/-- A type with its names made anew. -/
def relabelType (classNames : String → Option String) (t : TypeDescriptor) : TypeDescriptor :=
  (t.relabel classNames).1

/-- A warning for every type that leads to no model, in order. -/
def danglingWarnings (classNames : String → Option String) (location : String)
    (types : List TypeDescriptor) : List Warning :=
  types.filterMap fun t => (t.relabel classNames).2.map (.danglingReference location)

/-- A model with the names of its types made anew. -/
def ModelDescriptor.relabel (classNames : String → Option String) (m : ModelDescriptor) :
    ModelDescriptor :=
  m.mapTypes (relabelType classNames)

/-- An operation with the names of its types made anew. -/
def OperationDescriptor.relabel (classNames : String → Option String) (o : OperationDescriptor) :
    OperationDescriptor :=
  o.mapTypes (relabelType classNames)

namespace Registry

/-- The models with the names of their types made anew. -/
def relabel (r : Registry) : Registry :=
  r.mapModels (·.relabel r.className?)

/-- The warnings for the types of all models, which are called by their class names. -/
def modelWarnings (r : Registry) : List Warning :=
  r.models.flatMap fun (_, m) => danglingWarnings r.className? m.className m.types

/-- The warnings for the types of operations, which are called by their ids. -/
def operationWarnings (r : Registry) (os : List OperationDescriptor) : List Warning :=
  os.flatMap fun o => danglingWarnings r.className? o.operationId o.types

end Registry

end ApiTypes
