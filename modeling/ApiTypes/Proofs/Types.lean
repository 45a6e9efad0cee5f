import ApiTypes.Naming.Relabelling
import ApiTypes.Proofs.FirstSeen
import ApiTypes.Proofs.Resolving
import ApiTypes.Resolution.SchemaType
import Mathlib.Data.List.Basic

/-!
# The types that a run makes

Every type that a schema resolves to is built from primitive types and references by lists and
maps, and names models as the registry does at the time.

* `TypeDescriptor.Current` — built so, with the class names that a look-up knows.
* `TypesTo` — **the type that several types come to**; `typesTo_of_gives` — that of a union is found
  so.
* `schemaType_current` — the types of schemas, by one case for each shape of a node.
* `Current.relabelType` — relabelling keeps how a type is built and changes the look-up;
  `Current.mem_references_relabelType` — it keeps references as long as they lead somewhere;
  `Current.asPrimitive_relabelType`, `Current.isDisplayable_relabelType` — and it leaves what is not
  a reference as it is.
* `Current.layers` — the types inside such a type are built so too.
-/

namespace ApiTypes

open Resolving

namespace TypeDescriptor

/-- A type built from primitive types and references by lists and maps, whose references have the
class names that `classNames` knows. -/
inductive Current (classNames : String → Option String) : TypeDescriptor → Prop where
  | primitive (p : Primitive) (format : Option String) (synthesized : Bool) :
      Current classNames { primitive p with format := format, synthesized := synthesized }
  | model {key className : String} (h : classNames key = some className) :
      Current classNames (model key className)
  | listOf {t : TypeDescriptor} (h : Current classNames t) : Current classNames (listOf t)
  | mapOf {t : TypeDescriptor} (h : Current classNames t) : Current classNames (mapOf t)

variable {classNames : String → Option String} {t u : TypeDescriptor}

lemma current_primitive (p : Primitive) : Current classNames (primitive p) :=
  .primitive p none false

lemma current_dynamic : Current classNames dynamic :=
  current_primitive .value

/-! ## Layers and references -/

lemma layers_of_inner_none (h : t.inner = none) : t.layers = [t] := by
  obtain ⟨_, _, _, _, _, _, _, _ | _, _⟩ := t
  · rfl
  · cases h

lemma layers_of_inner_some (h : t.inner = some u) : t.layers = t :: u.layers := by
  obtain ⟨_, _, _, _, _, _, _, _ | _, _⟩ := t
  · cases h
  · injection h with h
    subst h
    rfl

lemma references_dynamic : dynamic.references = [] :=
  rfl

lemma references_model (key className : String) : (model key className).references = [key] :=
  rfl

lemma references_listOf (t : TypeDescriptor) : (listOf t).references = t.references := by
  rw [references, layers_of_inner_some rfl, List.filterMap_cons_none rfl, references]

lemma references_mapOf (t : TypeDescriptor) : (mapOf t).references = t.references := by
  rw [references, layers_of_inner_some rfl, List.filterMap_cons_none rfl, references]

/-! ## Relabelling -/

lemma relabelType_model (key className : String) :
    relabelType classNames (model key className) =
      ((classNames key).map (model key)).getD dynamic := by
  simp only [relabelType, model, relabel]
  cases classNames key <;> rfl

lemma relabelType_listOf (t : TypeDescriptor) :
    relabelType classNames (listOf t) = listOf (relabelType classNames t) := by
  simp [relabelType, listOf, relabel]

lemma relabelType_mapOf (t : TypeDescriptor) :
    relabelType classNames (mapOf t) = mapOf (relabelType classNames t) := by
  simp [relabelType, mapOf, relabel]

/-! ## Current types -/

namespace Current

/-- What stands inside a current type is current. -/
lemma inner (h : Current classNames t) (hu : t.inner = some u) : Current classNames u := by
  cases h with
  | primitive p format synthesized => cases hu
  | model h => cases hu
  | listOf h =>
    injection hu with hu
    exact hu ▸ h
  | mapOf h =>
    injection hu with hu
    exact hu ▸ h

/-- Every layer of a current type is current. -/
lemma layers (h : Current classNames t) : ∀ u ∈ t.layers, Current classNames u := by
  induction h with
  | primitive p format synthesized =>
    rw [layers_of_inner_none rfl]
    exact List.forall_mem_singleton.2 (.primitive p format synthesized)
  | model h =>
    rw [layers_of_inner_none rfl]
    exact List.forall_mem_singleton.2 (.model h)
  | listOf h ih =>
    rw [layers_of_inner_some rfl]
    exact List.forall_mem_cons.2 ⟨.listOf h, ih⟩
  | mapOf h ih =>
    rw [layers_of_inner_some rfl]
    exact List.forall_mem_cons.2 ⟨.mapOf h, ih⟩

/-- The items of a current type are current. -/
lemma items (h : Current classNames t) (hu : t.items = some u) : Current classNames u := by
  rw [TypeDescriptor.items] at hu
  split at hu
  · exact h.inner hu
  · cases hu

/-- Relabelling makes a type current for the new look-up, whatever look-up it was current for. -/
lemma relabelType (h : Current classNames t) (classNames' : String → Option String) :
    Current classNames' (relabelType classNames' t) := by
  induction h with
  | primitive p format synthesized => exact .primitive p format synthesized
  | @model key className h =>
    rw [relabelType_model]
    cases hk : classNames' key with
    | none => exact current_dynamic
    | some className' => exact .model hk
  | listOf h ih =>
    rw [relabelType_listOf]
    exact .listOf ih
  | mapOf h ih =>
    rw [relabelType_mapOf]
    exact .mapOf ih

/-- **Relabelling makes no primitive type** but that of any value, and takes none away. -/
lemma asPrimitive_relabelType (h : Current classNames t) (classNames' : String → Option String)
    {p : Primitive} (hp : p ≠ .value) :
    (ApiTypes.relabelType classNames' t).asPrimitive = some p ↔ t.asPrimitive = some p := by
  cases h with
  | primitive q format synthesized => rfl
  | @model key className h =>
    rw [relabelType_model]
    cases classNames' key with
    | none =>
      have hvalue : dynamic.asPrimitive = some .value := rfl
      have hmodel : (TypeDescriptor.model key className).asPrimitive = none := rfl
      simp [hvalue, hmodel, hp.symm]
    | some className' => rfl
  | listOf h =>
    rw [relabelType_listOf]
    rfl
  | mapOf h =>
    rw [relabelType_mapOf]
    rfl

/-- Relabelling changes no type that is printed as it is, and makes none. -/
lemma isDisplayable_relabelType (h : Current classNames t)
    (classNames' : String → Option String) :
    (ApiTypes.relabelType classNames' t).isDisplayable = t.isDisplayable := by
  cases h with
  | primitive p format synthesized => rfl
  | @model key className h =>
    rw [relabelType_model]
    cases classNames' key <;> rfl
  | listOf h =>
    rw [relabelType_listOf]
    rfl
  | mapOf h =>
    rw [relabelType_mapOf]
    rfl

/-- Relabelling keeps the references to models that have a class name, and no others. -/
lemma mem_references_relabelType (h : Current classNames t) (classNames' : String → Option String)
    (key : String) : key ∈ (ApiTypes.relabelType classNames' t).references ↔
      key ∈ t.references ∧ (classNames' key).isSome = true := by
  induction h with
  | primitive p format synthesized =>
    -- neither the type nor what it becomes refers to any model
    show key ∈ [] ↔ key ∈ [] ∧ _
    simp
  | @model own className h =>
    rw [relabelType_model, references_model, List.mem_singleton]
    cases hk : classNames' own with
    | none =>
      simp only [Option.map_none, Option.getD_none, references_dynamic, List.not_mem_nil, false_iff]
      rintro ⟨rfl, hsome⟩
      rw [hk] at hsome
      cases hsome
    | some className' =>
      simp only [Option.map_some, Option.getD_some, references_model, List.mem_singleton]
      exact ⟨fun heq => ⟨heq, heq ▸ hk ▸ rfl⟩, And.left⟩
  | listOf h ih => rw [relabelType_listOf, references_listOf, references_listOf, ih]
  | mapOf h ih => rw [relabelType_mapOf, references_mapOf, references_mapOf, ih]

end Current

/-- The same for all types of a list. -/
lemma mem_references_map_relabelType {ts : List TypeDescriptor} (h : ∀ t ∈ ts, Current classNames t)
    (classNames' : String → Option String) (key : String) :
    key ∈ (ts.map (relabelType classNames')).flatMap (·.references) ↔
      key ∈ ts.flatMap (·.references) ∧ (classNames' key).isSome = true := by
  simp only [List.mem_flatMap, List.mem_map, exists_exists_and_eq_and]
  constructor
  · rintro ⟨t, ht, hkey⟩
    obtain ⟨hkey, hsome⟩ := ((h t ht).mem_references_relabelType classNames' key).1 hkey
    exact ⟨⟨t, ht, hkey⟩, hsome⟩
  · rintro ⟨⟨t, ht, hkey⟩, hsome⟩
    exact ⟨t, ht, ((h t ht).mem_references_relabelType classNames' key).2 ⟨hkey, hsome⟩⟩

end TypeDescriptor

/-! ## The type of several types -/

/-- **The type that several types come to**: the first one when the others count as the same, and
that of any value when there is none, or when two of them differ. -/
inductive TypesTo : List TypeDescriptor → TypeDescriptor → Prop where
  | none : TypesTo [] .dynamic
  | sole {first : TypeDescriptor} {rest : List TypeDescriptor}
      (h : ∀ t ∈ rest, first.sameType t = true) : TypesTo (first :: rest) first
  | several {types : List TypeDescriptor} {t u : TypeDescriptor} (ht : t ∈ types) (hu : u ∈ types)
      (hdiffer : t.sameType u = false) : TypesTo types .dynamic

lemma TypesTo.current {classNames : String → Option String} {types : List TypeDescriptor}
    {t : TypeDescriptor} (h : TypesTo types t) (htypes : ∀ u ∈ types, u.Current classNames) :
    t.Current classNames := by
  cases h with
  | none => exact TypeDescriptor.current_dynamic
  | sole hsame => exact htypes _ List.mem_cons_self
  | several ht hu hdiffer => exact TypeDescriptor.current_dynamic

/-- What is left of the types when they are compared. -/
def soleOf (types : List TypeDescriptor) : TypeDescriptor :=
  match firstSeen TypeDescriptor.sameType types with
  | [only] => only
  | _ => .dynamic

lemma typesTo_soleOf (types : List TypeDescriptor) : TypesTo types (soleOf types) := by
  rw [soleOf]
  rcases hkept : firstSeen TypeDescriptor.sameType types with _ | ⟨only, _ | ⟨second, rest⟩⟩
  · have hhead := head?_firstSeen TypeDescriptor.sameType types
    rw [hkept, List.head?_nil, eq_comm, List.head?_eq_none_iff] at hhead
    subst hhead
    exact .none
  · have hhead := head?_firstSeen TypeDescriptor.sameType types
    rw [hkept, List.head?_cons, eq_comm, List.head?_eq_some_iff] at hhead
    obtain ⟨rest, rfl⟩ := hhead
    refine .sole fun t ht => ?_
    obtain ⟨y, hy, hsame⟩ :=
      exists_mem_firstSeen TypeDescriptor.sameType_refl (List.mem_cons_of_mem only ht)
    rw [hkept, List.mem_singleton] at hy
    exact hy ▸ hsame
  · have hpairwise := firstSeen_pairwise TypeDescriptor.sameType types
    have hsubset := firstSeen_subset TypeDescriptor.sameType types
    rw [hkept] at hpairwise hsubset
    exact .several (hsubset List.mem_cons_self)
      (hsubset (List.mem_cons_of_mem only List.mem_cons_self))
      ((List.pairwise_cons.1 hpairwise).1 second List.mem_cons_self)

/-! ## Types of schemas -/

namespace Scope

open TypeDescriptor (Current current_dynamic)

variable {scope : Scope} {classNames : String → Option String}

lemma scalarType_eq_ok {s : ScalarSchema} {t : TypeDescriptor} (h : scope.scalarType s = .ok t) :
    ∃ p : Primitive, t = { TypeDescriptor.primitive p with format := s.format } := by
  rw [scalarType] at h
  obtain ⟨kind, _, _, _, _, _, _⟩ := s
  rcases kind with _ | _ | _ | _
  · dsimp only at h
    rcases hi : integerType _ _ with e | p
    · rw [hi] at h
      cases h
    · rw [hi] at h
      injection h with h
      exact ⟨p, h.symm⟩
  all_goals
    injection h with h
    exact ⟨_, h.symm⟩

lemma scalarType_current {s : ScalarSchema} {t : TypeDescriptor} (h : scope.scalarType s = .ok t) :
    Current classNames t := by
  obtain ⟨p, rfl⟩ := scalarType_eq_ok h
  exact .primitive p s.format false

lemma referenceType_eq_ok {key : String} {t : TypeDescriptor}
    (h : scope.referenceType key = .ok t) :
    ∃ className, scope.registry.className? key = some className ∧ t = .model key className := by
  rw [referenceType] at h
  split at h
  · rename_i className hc
    injection h with h
    exact ⟨className, hc, h.symm⟩
  · cases h

/-- A union inside another type has the type that those of its variants come to. -/
lemma gives_unionType {location : String} {kind : UnionKind} {types : List TypeDescriptor}
    {t : TypeDescriptor} : Gives (unionType location kind types) t ↔ soleOf types = t := by
  rw [unionType, soleOf]
  rcases firstSeen TypeDescriptor.sameType types with _ | ⟨only, _ | ⟨second, rest⟩⟩
  · exact gives_pure
  · exact gives_pure
  · simp only [gives_bind, gives_pure]
    exact ⟨fun ⟨_, _, h⟩ => h, fun h => ⟨(), ⟨_, rfl⟩, h⟩⟩

lemma typesTo_of_gives {location : String} {kind : UnionKind} {types : List TypeDescriptor}
    {t : TypeDescriptor} (h : Gives (unionType location kind types) t) : TypesTo types t :=
  gives_unionType.1 h ▸ typesTo_soleOf types

/-- An object that allows no undeclared properties stands for any value, and warns of those that it
declares. -/
lemma shapeType_closedObject (scope : Scope) {object : ObjectOf SchemaNode}
    (hclosed : object.additional = none ∨ object.additional = some (.any false))
    (location : String) :
    scope.shapeType (.object object) location =
      if !object.properties.isEmpty then
        warn (.dynamicFallback location FallbackReason.declaredProperties.message) >>= fun _ =>
          Pure.pure TypeDescriptor.dynamic
      else Pure.pure TypeDescriptor.dynamic := by
  obtain ⟨properties, required, additional⟩ := object
  rcases hclosed with rfl | rfl
  all_goals
    rw [shapeType]
    all_goals simp

/-- That it stands for any value does not depend on the warning. -/
lemma declaredObject_eq {condition : Bool} {w : Warning} {t : TypeDescriptor}
    (h : Gives (if condition then warn w >>= fun _ => Pure.pure TypeDescriptor.dynamic
      else Pure.pure TypeDescriptor.dynamic) t) :
    t = .dynamic := by
  split at h
  · obtain ⟨_, -, h⟩ := gives_bind.1 h
    exact (gives_pure.1 h).symm
  · exact (gives_pure.1 h).symm

mutual

/-- **The type of a node is current** for the registry that it is resolved in. -/
theorem schemaType_current : ∀ (node : SchemaNode) (location : String) (t : TypeDescriptor),
    Gives (scope.schemaType node location) t → Current scope.registry.className? t
  | ⟨shape, _⟩, location, t, h => by
      rw [schemaType] at h
      exact shapeType_current shape location t h

theorem shapeType_current :
    ∀ (shape : Shape SchemaNode) (location : String) (t : TypeDescriptor),
      Gives (scope.shapeType shape location) t → Current scope.registry.className? t
  | .scalar schema, location, t, h => by
      rw [shapeType, gives_located] at h
      exact scalarType_current h
  | .array none, location, t, h => by
      simp only [shapeType, gives_bind, gives_pure] at h
      obtain ⟨_, _, rfl⟩ := h
      exact .listOf (.primitive .string none true)
  | .array (some items), location, t, h => by
      simp only [shapeType, gives_bind, gives_pure] at h
      obtain ⟨inner, hinner, rfl⟩ := h
      exact .listOf (schemaType_current items _ inner hinner)
  | .map (.any _), location, t, h => by
      rw [shapeType, gives_pure] at h
      exact h ▸ .mapOf current_dynamic
  | .map (.schema values), location, t, h => by
      simp only [shapeType, gives_bind, gives_pure] at h
      obtain ⟨inner, hinner, rfl⟩ := h
      exact .mapOf (schemaType_current values _ inner hinner)
  | .object ⟨_, _, some (.schema values)⟩, location, t, h => by
      simp only [shapeType, gives_bind, gives_pure] at h
      obtain ⟨inner, hinner, rfl⟩ := h
      exact .mapOf (schemaType_current values _ inner hinner)
  | .object ⟨_, _, some (.any true)⟩, location, t, h => by
      rw [shapeType, gives_pure] at h
      exact h ▸ .mapOf current_dynamic
  | .object ⟨properties, _, some (.any false)⟩, location, t, h => by
      rw [shapeType_closedObject scope (Or.inr rfl)] at h
      exact declaredObject_eq h ▸ current_dynamic
  | .object ⟨properties, _, none⟩, location, t, h => by
      rw [shapeType_closedObject scope (Or.inl rfl)] at h
      exact declaredObject_eq h ▸ current_dynamic
  | .union kind variants, location, t, h => by
      simp only [shapeType, gives_bind] at h
      obtain ⟨types, htypes, h⟩ := h
      exact (typesTo_of_gives h).current (variantTypes_current variants _ _ types htypes)
  | .reference key, location, t, h => by
      rw [shapeType, gives_located] at h
      obtain ⟨className, hc, rfl⟩ := referenceType_eq_ok h
      exact .model hc

theorem variantTypes_current :
    ∀ (nodes : List SchemaNode) (location : String) (place : Nat) (types : List TypeDescriptor),
      Gives (scope.variantTypes nodes location place) types →
        ∀ t ∈ types, Current scope.registry.className? t
  | [], location, place, types, h => by
      rw [variantTypes, gives_pure] at h
      simp [← h]
  | node :: nodes, location, place, types, h => by
      simp only [variantTypes, gives_bind, gives_pure] at h
      obtain ⟨first, hfirst, rest, hrest, rfl⟩ := h
      exact List.forall_mem_cons.2 ⟨schemaType_current node _ first hfirst,
        variantTypes_current nodes _ _ rest hrest⟩

end

end Scope

end ApiTypes
