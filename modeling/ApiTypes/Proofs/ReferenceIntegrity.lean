import ApiTypes.Proofs.Run
import ApiTypes.Text.Latin

/-!
# References in a result lead to its models

Names are given out before models are renamed and left out, and relabelling has to catch up with
all of them.  It does: no type of a result names a model that is not in it.

* `TypeDescriptor.Intact` — what a type of a result looks like, without a look at how it was made.
* `Run.intact_of_current` — types that are current after names were settled are intact.
* `mem_references_finished`, `mem_references_relabel` — of its references a model or an operation
  keeps those that lead to models.
* `types_intact` — **all types of a result are intact**, at every depth.
-/

namespace ApiTypes

open TypeDescriptor (Current)

/-- A type that agrees with itself and with the models of a result. -/
structure TypeDescriptor.Intact (api : TypedApi) (t : TypeDescriptor) : Prop where
  /-- Containers are the types with an inner type. -/
  isContainer_iff : t.isContainer = true ↔ t.inner.isSome = true
  isContainer_of_isMap : t.isMap = true → t.isContainer = true
  /-- A container is called after its inner type. -/
  name_of_inner : ∀ u, t.inner = some u →
    t.name = if t.isMap then "HashMap<String, " ++ u.name ++ ">" else "Vec<" ++ u.name ++ ">"
  /-- A reference leads to the one model with its key, under the name that this model has. -/
  reference : ∀ key, t.reference = some key → t.isContainer = false ∧ ∃ m,
    (api.models.filter fun e => e.2.key = key) = [(m.className, m)] ∧ t.name = m.className
  /-- All other types are primitive types. -/
  leaf : t.inner = none → t.reference = none → ∃ p : Primitive,
    t.name = p.name ∧ (t.isPrimitive = true ↔ p ≠ .value) ∧ t.isDisplayable = p.isDisplayable
  /-- No other type goes by the name of the type of any value. -/
  eq_value_of_isDynamic : t.isDynamic = true →
    ∃ format synthesized, t = { primitive .value with format := format, synthesized := synthesized }

/-! ## Names -/

lemma Primitive.name_injective {p q : Primitive} (h : p.name = q.name) : p = q :=
  Option.some.inj ((ofName?_name p).symm.trans ((congrArg ofName? h).trans (ofName?_name q)))

/-- The name of a container is that of no value: it ends in a bracket. -/
lemma containerName_ne_value (start inner : String) :
    start ++ inner ++ ">" ≠ Primitive.value.name := by
  intro h
  have hlast := congrArg (fun s : String => s.toList.getLast?) h
  simp [Primitive.name] at hlast

/-! ## References that lead to models -/

variable {classNames classNames' : String → Option String} {key : String}

lemma ModelDescriptor.mem_references_finished {m : ModelDescriptor}
    (hm : ∀ t ∈ m.types, t.Current classNames) :
    key ∈ (m.finished classNames').references ↔
      key ∈ m.references ∧ (classNames' key).isSome = true := by
  rw [references, finished, types_withFacts, relabel, types_mapTypes]
  exact TypeDescriptor.mem_references_map_relabelType hm classNames' key

lemma OperationDescriptor.mem_references_relabel {o : OperationDescriptor}
    (ho : ∀ t ∈ o.types, t.Current classNames) :
    key ∈ (o.relabel classNames').references ↔
      key ∈ o.references ∧ (classNames' key).isSome = true := by
  rw [references, relabel, types_mapTypes]
  exact TypeDescriptor.mem_references_map_relabelType ho classNames' key

namespace ApiDocument.Run

variable {document : ApiDocument} {config : Config} {parts : ResolvedDocument} {api : TypedApi}
  {statistics : Statistics}

/-- A key with a class name is that of one model of the result. -/
lemma filter_models [Spelling] (run : document.Run config parts api statistics)
    {key className : String}
    (h : (parts.settled document config).registry.className? key = some className) : ∃ m,
    (api.models.filter fun e => e.2.key = key) = [(m.className, m)] ∧ className = m.className := by
  have hs := run.settled_consistent
  obtain ⟨m, hm, rfl⟩ := Registry.className?_eq_some.1 h
  refine ⟨m.finished (parts.settled document config).registry.className?, ?_, rfl⟩
  have hkeys : ∀ e ∈ (parts.settled document config).registry.models,
      (decide (e.2.key = key)) = decide (e.1 = key) := fun e he => by rw [hs.key_eq e he]
  rw [run.models_eq, List.filter_map]
  show List.map _ (List.filter (fun e : String × ModelDescriptor => decide (e.2.key = key)) _) = _
  rw [List.filter_congr hkeys, Members.filter_of_mem hs.keys_nodup (hs.get?_eq_some.1 hm)]
  rfl

/-! ## Types after names were settled -/

/-- A container that is called after its inner type is intact, and not called like a value. -/
lemma intact_of_container {t u : TypeDescriptor} (hcontainer : t.isContainer = true)
    (hinner : t.inner = some u) (hreference : t.reference = none)
    (hname : t.name = if t.isMap then TypeDescriptor.mapName u.name
      else TypeDescriptor.listName u.name) : t.Intact api where
  isContainer_iff := by simp [hcontainer, hinner]
  isContainer_of_isMap _ := hcontainer
  name_of_inner u' hu' := by
    obtain rfl := Option.some.inj (hinner.symm.trans hu')
    exact hname
  reference key hkey := by
    rw [hreference] at hkey
    cases hkey
  leaf hnone := by
    rw [hinner] at hnone
    cases hnone
  eq_value_of_isDynamic hdynamic := by
    rw [TypeDescriptor.isDynamic, beq_iff_eq, hname] at hdynamic
    split at hdynamic
    · exact absurd hdynamic (containerName_ne_value _ _)
    · exact absurd hdynamic (containerName_ne_value _ _)

/-- A type that is current after names were settled is intact. -/
lemma intact_of_current [Spelling] (run : document.Run config parts api statistics)
    {t : TypeDescriptor} (h : t.Current (parts.settled document config).registry.className?) :
    t.Intact api := by
  cases h with
  | primitive p format synthesized =>
    refine ⟨by simp [TypeDescriptor.primitive], by simp [TypeDescriptor.primitive], ?_, ?_, ?_, ?_⟩
    · rintro u ⟨⟩
    · rintro key ⟨⟩
    · exact fun _ _ => ⟨p, rfl, by simp [TypeDescriptor.primitive], rfl⟩
    · intro hdynamic
      rw [TypeDescriptor.isDynamic, beq_iff_eq] at hdynamic
      obtain rfl : p = .value := Primitive.name_injective hdynamic
      exact ⟨format, synthesized, rfl⟩
  | @model key className hname =>
    refine ⟨by simp [TypeDescriptor.model], by simp [TypeDescriptor.model], ?_, ?_, ?_, ?_⟩
    · rintro u ⟨⟩
    · rintro _ ⟨⟩
      exact ⟨rfl, run.filter_models hname⟩
    · rintro - ⟨⟩
    · intro hdynamic
      rw [TypeDescriptor.isDynamic, beq_iff_eq] at hdynamic
      -- the name of a model is legal, and that of the type of any value is reserved
      obtain ⟨m, hm, rfl⟩ := Registry.className?_eq_some.1 hname
      have hlegal := run.settled_legalNames _ (Members.mem_of_get? hm)
      exact absurd hdynamic (hlegal.ne_reserved (by decide +kernel))
  | listOf hu => exact intact_of_container rfl rfl rfl rfl
  | mapOf hu => exact intact_of_container rfl rfl rfl rfl

/-- Relabelling catches up with whatever names the types had before. -/
lemma layers_intact [Spelling] (run : document.Run config parts api statistics)
    {t u : TypeDescriptor} (h : t.Current parts.registry.className?)
    (hu : u ∈ (relabelType (parts.settled document config).registry.className? t).layers) :
    u.Intact api :=
  run.intact_of_current ((h.relabelType _).layers u hu)

/-- Settling does not look at types. -/
lemma stable_types : ModelDescriptor.Stable (·.types) where
  titled _ _ := rfl
  renamedFrom previous m := m.types_renamedFrom previous
  asBody _ := rfl

lemma stable_references : ModelDescriptor.Stable (·.references) where
  titled _ _ := rfl
  renamedFrom previous m := congrArg (·.flatMap (·.references)) (m.types_renamedFrom previous)
  asBody _ := rfl

end ApiDocument.Run

/-! ## The whole result -/

/-- **All types of a result are intact**, whatever models were renamed or left out: those of its
models and of its operations, and the types inside them at every depth. -/
theorem types_intact [Spelling] {document : ApiDocument} {config : Config} {api : TypedApi}
    {statistics : Statistics} (h : document.resolve config = .ok (api, statistics)) :
    (∀ e ∈ api.models, ∀ t ∈ e.2.types, ∀ u ∈ t.layers, u.Intact api) ∧
      ∀ o ∈ api.operations, ∀ t ∈ o.types, ∀ u ∈ t.layers, u.Intact api := by
  obtain ⟨parts, run⟩ := ApiDocument.exists_run h
  constructor
  · intro e he t ht u hu
    rw [run.models_eq] at he
    obtain ⟨⟨key, m⟩, hm, rfl⟩ := List.mem_map.1 he
    -- settling renames models and leaves some out, but their types are those they were made with
    have hview : (key, m.types) ∈ parts.registry.view (·.types) :=
      (run.settled_moves.view_sublist ApiDocument.Run.stable_types).subset (Registry.mem_view _ hm)
    obtain ⟨⟨key', m'⟩, hm', heq⟩ := List.mem_map.1 hview
    have htypes : m'.types = m.types := (Prod.mk.inj heq).2
    rw [ModelDescriptor.finished, ModelDescriptor.types_withFacts, ModelDescriptor.relabel,
      ModelDescriptor.types_mapTypes] at ht
    obtain ⟨t', ht', rfl⟩ := List.mem_map.1 ht
    rw [← htypes] at ht'
    exact run.layers_intact (run.models_current _ hm' t' ht') hu
  · intro o ho t ht u hu
    obtain ⟨o', ho', rfl⟩ := run.mem_operations.1 ho
    rw [OperationDescriptor.relabel, OperationDescriptor.types_mapTypes] at ht
    obtain ⟨t', ht', rfl⟩ := List.mem_map.1 ht
    exact run.layers_intact (run.operations_current o' ho' t' ht') hu

theorem petShop_types_intact : ∃ api statistics,
    ApiDocument.petShop.resolve {} = .ok (api, statistics) ∧
      (∀ e ∈ api.models, ∀ t ∈ e.2.types, ∀ u ∈ t.layers, u.Intact api) ∧
      ∀ o ∈ api.operations, ∀ t ∈ o.types, ∀ u ∈ t.layers, u.Intact api := by
  obtain ⟨api, statistics, h⟩ := ApiDocument.exists_result_petShop
  exact ⟨api, statistics, h, types_intact h⟩

end ApiTypes
