import ApiTypes.Descriptor.Facts
import ApiTypes.Descriptor.Operation
import ApiTypes.Naming.Rebase
import ApiTypes.Proofs.Registry

/-!
# Reading and changing all types

The traversal that reads the types of a descriptor and the one that changes them go the same way,
and what else happens to a descriptor leaves its types alone.

* `PropertyDescriptor.types_mapTypes`, `ModelDescriptor.types_mapTypes`,
  `OperationDescriptor.types_mapTypes` — what is read after a change is what was read, changed.
* `ModelDescriptor.types_renamedFrom`, `types_withFacts` — names and facts are no types.
-/

namespace ApiTypes

variable (f : TypeDescriptor → TypeDescriptor)

namespace PropertyDescriptor

/-! ## Properties -/

lemma typesOfAll_eq (ps : List PropertyDescriptor) : typesOfAll ps = ps.flatMap types := by
  induction ps with
  | nil => rfl
  | cons p ps ih => rw [typesOfAll, ih, List.flatMap_cons]

/-- The types in a property are its own, that of its items, and those of its union's variants. -/
lemma types_eq (p : PropertyDescriptor) :
    p.types = p.type :: p.items.toList ++
      p.union.toList.flatMap fun u => u.variants.flatMap types := by
  obtain ⟨_, _, type, items, _, _, _ | ⟨variants, _, _⟩, _⟩ := p
  · simp [types]
  · simp [types, typesOfAll_eq]

lemma type_mem_types (p : PropertyDescriptor) : p.type ∈ p.types := by
  rw [types_eq]
  exact List.mem_cons_self

mutual

theorem types_mapTypes : ∀ p : PropertyDescriptor, (p.mapTypes f).types = p.types.map f
  | ⟨_, _, type, items, _, _, none, _⟩ => by
      cases items <;> simp [mapTypes, types]
  | ⟨_, _, type, items, _, _, some ⟨variants, _, _⟩, _⟩ => by
      have hvariants := typesOfAll_mapTypesOfAll variants
      cases items <;> simp [mapTypes, types, hvariants]

theorem typesOfAll_mapTypesOfAll :
    ∀ ps : List PropertyDescriptor, typesOfAll (mapTypesOfAll f ps) = (typesOfAll ps).map f
  | [] => rfl
  | p :: ps => by
      rw [mapTypesOfAll, typesOfAll, typesOfAll, List.map_append, types_mapTypes p,
        typesOfAll_mapTypesOfAll ps]

end

lemma mapTypesOfAll_eq (ps : List PropertyDescriptor) :
    mapTypesOfAll f ps = ps.map (mapTypes f) := by
  induction ps with
  | nil => rfl
  | cons p ps ih => rw [mapTypesOfAll, ih, List.map_cons]

/-- Changing all types leaves the names and the facts of a property alone. -/
lemma mapTypes_eq (p : PropertyDescriptor) :
    p.mapTypes f =
      { p with
        type := f p.type
        items := p.items.map f
        union := p.union.map fun u => { u with variants := u.variants.map (mapTypes f) } } := by
  obtain ⟨_, _, type, items, _, _, _ | ⟨variants, _, _⟩, _⟩ := p
  · rfl
  · simp [mapTypes, mapTypesOfAll_eq]

lemma type_mapTypes (p : PropertyDescriptor) : (p.mapTypes f).type = f p.type := by
  obtain ⟨_, _, _, _, _, _, _ | ⟨_, _, _⟩, _⟩ := p <;> rfl

lemma types_rebase (previous current : String) (p : PropertyDescriptor) :
    (p.rebase previous current).types = p.types := by
  have hvariant : ∀ v : PropertyDescriptor,
      types { v with
        name := ApiTypes.rebase previous current v.name
        baseName := ApiTypes.rebase previous current v.baseName } = v.types := fun v => by
    rw [types_eq, types_eq]
  rw [types_eq, types_eq]
  cases hu : p.union with
  | none => simp [rebase, hu]
  | some u => simp [rebase, hu, UnionOf.rebase, List.flatMap_map, hvariant]

lemma types_withFacts (p : PropertyDescriptor) : p.withFacts.types = p.types := by
  rw [types_eq, types_eq]
  rfl

end PropertyDescriptor

/-! ## Models -/

namespace ModelDescriptor

lemma variants_mapTypes (m : ModelDescriptor) :
    (m.mapTypes f).variants = m.variants.map (·.mapTypes f) := by
  cases hu : m.union <;> simp [variants, mapTypes, hu]

/-- The types in a model are the one that it stands for, those of its properties, and those of its
union's variants. -/
lemma types_eq (m : ModelDescriptor) :
    m.types = m.type.toList ++ (m.properties.flatMap (·.types) ++
      m.union.toList.flatMap fun u => u.variants.flatMap (·.types)) := by
  cases hu : m.union <;> simp [types, variants, hu]

theorem types_mapTypes (m : ModelDescriptor) : (m.mapTypes f).types = m.types.map f := by
  rw [types, types, variants_mapTypes]
  cases ht : m.type <;>
    simp [mapTypes, ht, List.flatMap_map, List.map_flatMap, PropertyDescriptor.types_mapTypes]

lemma types_rebase (previous current : String) (m : ModelDescriptor) :
    (m.rebase previous current).types = m.types := by
  have hvariants : (m.rebase previous current).variants.flatMap (·.types) =
      m.variants.flatMap (·.types) := by
    cases hu : m.union with
    | none => simp [rebase, variants, hu]
    | some u =>
      simp only [rebase, variants, hu, Option.map_some, UnionOf.rebase, List.flatMap_map]
      congr 1
      funext v
      rw [PropertyDescriptor.types_eq, PropertyDescriptor.types_eq]
  rw [types, types, hvariants]
  simp [rebase, List.flatMap_map, PropertyDescriptor.types_rebase]

lemma types_renamedFrom (previous : String) (m : ModelDescriptor) :
    (m.renamedFrom previous).types = m.types :=
  types_rebase previous m.className m

lemma types_withFacts (m : ModelDescriptor) : m.withFacts.types = m.types := by
  simp [types, withFacts, variants, List.flatMap_map, PropertyDescriptor.types_withFacts]

end ModelDescriptor

/-! ## Operations -/

/-- The types in an operation are those of its parts, one part after the other. -/
lemma OperationDescriptor.types_eq (o : OperationDescriptor) :
    o.types = o.body.toList.flatMap (·.types) ++ (o.pathParams.flatMap (fun p => [p.type]) ++
      (o.queryParams.flatMap (fun p => [p.type]) ++ (o.headerParams.flatMap (fun p => [p.type]) ++
        o.responses.flatMap (·.type.toList)))) := by
  simp [types, parameters, List.map_eq_flatMap, List.filterMap_eq_flatMap_toList]

theorem OperationDescriptor.types_mapTypes (o : OperationDescriptor) :
    (o.mapTypes f).types = o.types.map f := by
  rw [types, types]
  simp only [parameters, mapTypes, List.map_append, List.map_map, Function.comp_def]
  congr 1
  · congr 1
    cases o.body <;> simp [PropertyDescriptor.types_mapTypes]
  · rw [List.filterMap_map, List.map_filterMap]
    rfl

end ApiTypes
