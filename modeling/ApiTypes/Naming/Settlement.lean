import ApiTypes.Descriptor.Operation
import ApiTypes.Naming.Rebase
import ApiTypes.Naming.Registry
import ApiTypes.Naming.Suggestions
import ApiTypes.Schema.Basic

/-!
# Settling names

When all models and operations are known, models whose names were made up take better ones, and
models that nothing needs are left out.

* `Settlement` — the registry, with counts of what has happened to its models.
* `Suggestions.ruling` — what the suggested names say about one model.
* `applySuggestions` — the rulings carried out, in the order of the registry.
* `dropUnreferenced` — lifted unions that nothing refers to are left out, again and again until
  there are none.
* `dropMarkers` — lifted unions get shorter names where those are free.
* `settle` — all three, in this order.
-/

namespace ApiTypes

/-! ## Rulings -/

/-- What is to happen to a model. -/
inductive Ruling where
  | keep
  /-- It takes the class name made from a desired name. -/
  | rename (desired : String)
  /-- It takes that name, and counts as the body of the operation it is called after. -/
  | renameBody (desired : String)
  /-- It is left out. -/
  | drop
  deriving DecidableEq, Repr

/-- What the class names of unions with a suggested name end in. -/
def unionSuffix : String :=
  "Enum"

/-- The name that a model takes for a suggested one. -/
def desiredName [Spelling] (suggested : String) (isUnion : Bool) : String :=
  if isUnion then Name.className suggested ++ unionSuffix else suggested

/-- What the suggested names say about a model.  A forced name counts for any model; the others
count for bodies and responses, whose unions cannot do without one. -/
def Suggestions.ruling [Spelling] (s : Suggestions) (key : String) (origin : Origin)
    (isUnion : Bool) : Ruling :=
  if s.isForced key then
    match s.name? key with
    | some name => .rename name
    | none => .keep
  else
    match origin, s.name? key with
    | .requestBody, some name => .renameBody (desiredName name isUnion)
    | .inlineResponse, some name => .rename (desiredName name isUnion)
    | .requestBody, none | .inlineResponse, none => if isUnion then .drop else .keep
    | _, _ => .keep

/-- The class name without the marker of its union kind, if it has one and there is more to it. -/
def withoutUnionMarker (className : String) : Option String :=
  let rest := [UnionKind.oneOf, .anyOf].findSome? fun kind =>
    Text.afterStart kind.marker.toList className.toList
  match rest with
  | some (c :: cs) => some (String.ofList (c :: cs))
  | _ => none

/-! ## Steps -/

/-- A registry whose names are being settled, and what has happened to its models so far. -/
structure Settlement where
  registry : Registry
  renamed : Nat := 0
  dropped : Nat := 0
  warnings : List Warning := []

namespace Settlement

/-- Counts a model as renamed that was called otherwise before. -/
def noteRename (s : Settlement) (key previous : String) : Settlement :=
  { s with
    registry := s.registry.update key (·.renamedFrom previous)
    renamed := s.renamed + 1 }

/-- Gives a model the class name made from a desired name. -/
def rename [Spelling] (s : Settlement) (key desired : String) : Settlement :=
  let (registry, current) := s.registry.rename key desired
  let moved := { s with registry := registry }
  match s.registry.className? key with
  | some previous => if current = some previous then moved else moved.noteRename key previous
  | none => moved

/-- Marks a model as the body of an operation. -/
def markBody (s : Settlement) (key : String) : Settlement :=
  { s with
    registry := s.registry.update key fun m =>
      { m with
        flags := ModelFlags.set m.flags .bodyModel
        extensions := Extensions.flag m.extensions .bodyModel } }

/-- Leaves a model out. -/
def drop (s : Settlement) (key : String) : Settlement :=
  { s with registry := (s.registry.remove key).1, dropped := s.dropped + 1 }

/-- Leaves a model out that nothing gave a name, with a warning. -/
def dropUnnamed (s : Settlement) (key : String) : Settlement :=
  { s.drop key with
    warnings := s.warnings ++
      (s.registry.className? key).toList.map .droppedSyntheticModel }

/-- Carries out a ruling. -/
def carryOut [Spelling] (s : Settlement) (key : String) : Ruling → Settlement
  | .keep => s
  | .rename desired => s.rename key desired
  | .renameBody desired => (s.rename key desired).markBody key
  | .drop => s.dropUnnamed key

/-- Carries out what the suggested names say about every model, in the order of the registry. -/
def applySuggestions [Spelling] (s : Settlement) (suggestions : Suggestions) : Settlement :=
  s.registry.models.foldl
    (fun s (key, m) => s.carryOut key (suggestions.ruling key m.origin m.isUnion)) s

/-! ## Unions that nothing refers to -/

/-- The keys that models other than their own, or operations, refer to. -/
def referenced (s : Settlement) (fromOperations : List String) : List String :=
  s.registry.models.flatMap (fun (key, m) => m.references.filter (· ≠ key)) ++ fromOperations

/-- The keys of lifted unions that nothing refers to. -/
def unreferenced (s : Settlement) (fromOperations : List String) : List String :=
  let found := s.referenced fromOperations
  (s.registry.models.filter fun (key, m) =>
    m.origin = .composed && !found.contains key).map (·.1)

/-- Leaving models out makes the registry no larger. -/
theorem size_foldl_drop_le (keys : List String) (s : Settlement) :
    (keys.foldl drop s).registry.size ≤ s.registry.size := by
  induction keys generalizing s with
  | nil => exact Nat.le_refl _
  | cons k ks ih => exact Nat.le_trans (ih _) (Registry.size_remove_le _ _)

/-- Leaving models out makes the registry smaller when it holds the first of them. -/
theorem size_foldl_drop_lt {key : String} {keys : List String} {s : Settlement}
    (h : key ∈ s.registry.keys) : ((key :: keys).foldl drop s).registry.size < s.registry.size :=
  Nat.lt_of_le_of_lt (size_foldl_drop_le keys _) (Registry.size_remove_lt h)

/-- A lifted union that nothing refers to is in the registry. -/
theorem mem_keys_of_mem_unreferenced {s : Settlement} {fromOperations : List String} {key : String}
    (h : key ∈ s.unreferenced fromOperations) : key ∈ s.registry.keys := by
  simp only [unreferenced, List.mem_map, List.mem_filter] at h
  obtain ⟨entry, ⟨hm, _⟩, rfl⟩ := h
  exact List.mem_map_of_mem hm

/-- Leaves out lifted unions that nothing refers to, and then those that only such ones referred
to, until all that are left are referred to. -/
def dropUnreferenced (s : Settlement) (fromOperations : List String) : Settlement :=
  match h : s.unreferenced fromOperations with
  | [] => s
  | key :: keys =>
    have : ((key :: keys).foldl drop s).registry.size < s.registry.size :=
      size_foldl_drop_lt (mem_keys_of_mem_unreferenced (h ▸ List.mem_cons_self))
    dropUnreferenced ((key :: keys).foldl drop s) fromOperations
termination_by s.registry.size

/-! ## Markers of lifted unions -/

/-- Gives a lifted union the class name without its marker, if that name is free. -/
def dropMarker [Spelling] (s : Settlement) (key : String) : Settlement :=
  match s.registry.className? key with
  | none => s
  | some previous =>
    match withoutUnionMarker previous with
    | none => s
    | some rest =>
      let (registry, isHeld) := s.registry.renameIfFree key (Name.className rest)
      if isHeld then { s with registry := registry }.noteRename key previous else s

/-- Gives lifted unions their shorter names, in the order of the registry. -/
def dropMarkers [Spelling] (s : Settlement) : Settlement :=
  s.registry.models.foldl
    (fun s (key, m) => if m.origin = .composed then s.dropMarker key else s) s

end Settlement

/-! ## The whole -/

/-- **The registry with its names settled.** -/
def Registry.settle [Spelling] (r : Registry) (suggestions : Suggestions)
    (operations : List OperationDescriptor) : Settlement :=
  let named := (Settlement.mk r 0 0 []).applySuggestions suggestions
  (named.dropUnreferenced (operations.flatMap (·.references))).dropMarkers

end ApiTypes
