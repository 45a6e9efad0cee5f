import ApiTypes.Proofs.Extensions
import ApiTypes.Proofs.NestedNames
import ApiTypes.Proofs.ReferenceIntegrity
import ApiTypes.Proofs.UnionVariants
import ApiTypes.Text.Latin

/-!
# Properties and their types

A property says more than once what its type is: its items repeat what a list is a list of, the
facts of a variant repeat whether it is a container, and a property with a union has the type that
stands for the union.  These copies are made in one place each and changed apart from each other,
and they agree in every result.

* `PropertyDescriptor.Inside` — a property, or a variant of the unions inside it, at any depth.
* `PropertyDescriptor.Coherent` — all of these have the items of their types, and variants are
  marked as the containers that they are.
* `PropertyDescriptor.StandsFor` — a property with the type that stands for its union.
* `PropertyDescriptor.Plain`, `PropertyDescriptor.Agrees` — variants, and properties with plain
  variants, while a run goes on; `flatten_plain`, `describe_agrees`, `Agrees.rebase`,
  `Agrees.mapTypes` — they are made so, and every change keeps them so.
* `ModelDescriptor.Agrees` — a model with such properties, one for each declared one.
* `properties_coherent` — **the properties of a result agree with their types.**
-/

namespace ApiTypes

open Resolving
open TypeDescriptor (Current)

/-! ## What agrees -/

namespace PropertyDescriptor

/-- A property lies inside a property: it is that one, or a variant of a union inside it. -/
inductive Inside (p : PropertyDescriptor) : PropertyDescriptor → Prop where
  | refl : Inside p p
  | variant {q v : PropertyDescriptor} {u : UnionDescriptor} (h : Inside p q)
      (hu : q.union = some u) (hv : v ∈ u.variants) : Inside p v

/-- A property that is marked as the container that its type is, if it is one. -/
structure Marked (p : PropertyDescriptor) : Prop where
  isContainer_eq : p.extensions.isFlagged Extension.isContainer.key = p.type.isContainer
  isListContainer_eq : p.extensions.isFlagged Extension.isListContainer.key = p.type.isList
  isMapContainer_eq : p.extensions.isFlagged Extension.isMapContainer.key = p.type.isMap

/-- **A property that agrees with its type**, as does everything inside it: the items are those of
the type, and variants are marked as the containers that they are. -/
structure Coherent (p : PropertyDescriptor) : Prop where
  items_eq : ∀ q, p.Inside q → q.items = q.type.items
  marked : ∀ q, p.Inside q → ∀ u ∈ q.union, ∀ v ∈ u.variants, v.Marked

/-- A variant as unions are made of: it has no union itself. -/
structure Plain (v : PropertyDescriptor) : Prop extends v.Marked where
  union_eq : v.union = none
  items_eq : v.items = v.type.items

/-- A property whose variants are plain, and which has the items of its type. -/
structure Agrees (p : PropertyDescriptor) : Prop where
  items_eq : p.items = p.type.items
  plain : ∀ u ∈ p.union, ∀ v ∈ u.variants, v.Plain

variable {p v : PropertyDescriptor}

lemma Plain.agrees (h : v.Plain) : v.Agrees :=
  ⟨h.items_eq, by simp [h.union_eq]⟩

/-- Inside a property with plain variants there is nothing but these. -/
lemma Agrees.inside (h : p.Agrees) {q : PropertyDescriptor} (hq : p.Inside q) :
    q = p ∨ q.Plain := by
  induction hq with
  | refl => exact Or.inl rfl
  | @variant q v u _ hu hv ih =>
    obtain rfl | hplain := ih
    · exact Or.inr (h.plain u hu v hv)
    · rw [hplain.union_eq] at hu
      cases hu

lemma Agrees.coherent (h : p.Agrees) : p.Coherent where
  items_eq q hq := by
    obtain rfl | hplain := h.inside hq
    · exact h.items_eq
    · exact hplain.items_eq
  marked q hq u hu v hv := by
    obtain rfl | hplain := h.inside hq
    · exact (h.plain u hu v hv).toMarked
    · rw [hplain.union_eq] at hu
      cases hu

end PropertyDescriptor

/-- A node that is an array of a union. -/
def SchemaNode.IsArrayOfUnion (node : SchemaNode) : Prop :=
  ∃ items kind variants, node.shape = .array (some items) ∧ items.shape = .union kind variants

/-- **A property that stands for a declared one**: it has its name, and if it has a union, the type
that stands for the union, or a list of that when an array of the union is declared. -/
structure PropertyDescriptor.StandsFor (baseName : String) (node : SchemaNode)
    (p : PropertyDescriptor) : Prop where
  baseName_eq : p.baseName = baseName
  type_of_array : node.IsArrayOfUnion → ∀ u ∈ p.union, p.type = .listOf (soleType u)
  type_of_other : ¬ node.IsArrayOfUnion → ∀ u ∈ p.union, p.type = soleType u

/-- An array of a union is a node whose items have variants. -/
lemma SchemaNode.isArrayOfUnion_of_itemVariants {node : SchemaNode} {variants : List SchemaNode}
    (h : node.itemVariants? = some variants) : node.IsArrayOfUnion := by
  obtain ⟨items, kind, hshape, hitems⟩ := itemVariants?_eq_some h
  exact ⟨items, kind, variants, hshape, hitems⟩

/-- The properties that a model declares. -/
def ModelSpec.declared (spec : ModelSpec) : List (String × SchemaNode) :=
  match spec.schema.shape with
  | .object schema => schema.properties
  | _ => []

/-- The properties that are declared for the model of a key: those of the first map-like object that
is met under the key, if there is one, and those of its own schema otherwise. -/
def ApiDocument.declared (document : ApiDocument) (key : String) (spec : ModelSpec) :
    List (String × SchemaNode) :=
  match Members.get? document.mapLikes key with
  | some schema => schema.properties
  | none => spec.declared

/-- A model whose variants are plain, and whose properties agree with their types and stand for the
declared ones, in order. -/
structure ModelDescriptor.Agrees (declared : List (String × SchemaNode)) (m : ModelDescriptor) :
    Prop where
  plain : ∀ u ∈ m.union, ∀ v ∈ u.variants, v.Plain
  properties : List.Forall₂ (fun p e => p.Agrees ∧ p.StandsFor e.1 e.2) m.properties declared

/-! ## Types -/

namespace TypeDescriptor

variable {classNames : String → Option String} {t : TypeDescriptor}

/-- A type that a run makes is a container when it is a list or a map. -/
lemma Current.isContainer_eq (h : Current classNames t) :
    t.isContainer = (t.isMap || t.isList) := by
  cases h <;> rfl

/-- Relabelling leaves it what it is, and its items change with it. -/
lemma Current.kind_relabelType (h : Current classNames t) (classNames' : String → Option String) :
    (ApiTypes.relabelType classNames' t).isMap = t.isMap ∧
      (ApiTypes.relabelType classNames' t).isList = t.isList ∧
      (ApiTypes.relabelType classNames' t).items =
        t.items.map (ApiTypes.relabelType classNames') := by
  cases h with
  | primitive p format synthesized => exact ⟨rfl, rfl, rfl⟩
  | @model key className h =>
    rw [relabelType_model]
    cases classNames' key <;> exact ⟨rfl, rfl, rfl⟩
  | listOf h =>
    rw [relabelType_listOf]
    exact ⟨rfl, rfl, rfl⟩
  | mapOf h =>
    rw [relabelType_mapOf]
    exact ⟨rfl, rfl, rfl⟩

end TypeDescriptor

/-! ## Properties as they are made -/

/-- A type that a run makes is marked as the container that it is. -/
lemma TypeDescriptor.Current.marked {classNames : String → Option String} {p : PropertyDescriptor}
    {e : Extensions} (h : p.type.Current classNames)
    (heq : p.extensions = Extensions.flagContainer e p.type)
    (hcontainer : e.isFlagged Extension.isContainer.key = false)
    (hlist : e.isFlagged Extension.isListContainer.key = false)
    (hmap : e.isFlagged Extension.isMapContainer.key = false) : p.Marked := by
  constructor
  · rw [heq, Extensions.isFlagged_flagContainer, hcontainer, h.isContainer_eq]
    simp
  · rw [heq, Extensions.isFlagged_flagContainer, hlist]
    simp
  · rw [heq, Extensions.isFlagged_flagContainer, hmap]
    simp

namespace Scope

variable {scope : Scope} {memo memo' : MapLikeMemo} {owner : Owner}

/-- **Variants are plain when they are made.** -/
lemma flatten_plain {name : String} {variants : List SchemaNode} {u : UnionDescriptor}
    (h : Gives (scope.flatten name variants) u) : ∀ v ∈ u.variants, v.Plain := by
  intro v hv
  obtain ⟨node, -, location, type, htype, name, rfl⟩ := exists_variantType h v hv
  have hobject : ∀ x : Extension, x ≠ .isObject → Extensions.isFlagged
      (Extensions.flagIf [] .isObject node.firstProperty?.isSome) x.key = false := by
    intro x hx
    simp [Extensions.isFlagged_flagIf, Extensions.isFlagged_nil, hx.symm]
  exact ⟨htype.current.marked rfl (hobject _ (by decide)) (hobject _ (by decide))
    (hobject _ (by decide)), rfl, rfl⟩

variable [Spelling]

/-- **A property agrees with its type when it is made**, and stands for the declared one. -/
lemma describe_agrees {baseName : String} {node : SchemaNode} {facts : PropertyFacts}
    (h : Gives (scope.describe owner baseName node) facts) (required : Bool) :
    (facts.property baseName required).Agrees ∧
      (facts.property baseName required).StandsFor baseName node := by
  cases described_of_gives h with
  | unions hitems hunion =>
    refine ⟨⟨rfl, by simpa [PropertyFacts.property] using flatten_plain hunion⟩, rfl,
      fun _ => by simp [PropertyFacts.property], fun hother => absurd ?_ hother⟩
    exact SchemaNode.isArrayOfUnion_of_itemVariants hitems
  | union hshape hunion =>
    refine ⟨⟨rfl, by simpa [PropertyFacts.property] using flatten_plain hunion⟩, rfl, ?_,
      fun _ => by simp [PropertyFacts.property]⟩
    rintro ⟨items, kind, variants, harray, -⟩
    rw [hshape] at harray
    cases harray
  | _ =>
    exact ⟨⟨rfl, by simp [PropertyFacts.property]⟩, rfl, by simp [PropertyFacts.property],
      by simp [PropertyFacts.property]⟩

lemma plainProperties_agrees {schema : ObjectSchema} {ps : List PropertyDescriptor}
    (h : Gives (scope.plainProperties owner schema) ps) :
    List.Forall₂ (fun p e => p.Agrees ∧ p.StandsFor e.1 e.2) ps schema.properties := by
  refine ((gives_mapM.1 h).imp fun e p hp => ?_).flip
  obtain ⟨facts, hfacts, hp⟩ := gives_bind.1 hp
  rw [← gives_pure.1 hp]
  exact describe_agrees hfacts _

lemma properties_agrees {required : String → Bool} {declared : List (String × SchemaNode)}
    {ps : List PropertyDescriptor}
    (h : Gives (scope.properties owner required declared memo) (ps, memo')) :
    List.Forall₂ (fun p e => p.Agrees ∧ p.StandsFor e.1 e.2) ps declared := by
  induction declared generalizing memo ps with
  | nil =>
    simp only [properties, gives_pure, Prod.mk.injEq] at h
    exact h.1 ▸ .nil
  | cons e rest ih =>
    obtain ⟨p, between, ps', hp, hps, rfl⟩ := properties_cons h
    refine .cons ?_ (ih hps)
    obtain ⟨schema, -, -, rfl⟩ | ⟨-, -, facts, hfacts, rfl⟩ := property_cases hp
    · exact ⟨⟨rfl, by simp [PropertyFacts.property]⟩, rfl, by simp [PropertyFacts.property],
        by simp [PropertyFacts.property]⟩
    · exact describe_agrees hfacts _

/-- The union of a model has plain variants when the model is made. -/
lemma Modelled.plain {key : String} {spec : ModelSpec} {m : ModelDescriptor}
    (h : Modelled scope key spec memo m memo') : ∀ u ∈ m.union, ∀ v ∈ u.variants, v.Plain := by
  cases h with
  | union hname hshape hunion => simpa using flatten_plain hunion
  | _ => simp

/-- A model that is no map-like object has the properties that its own schema declares. -/
lemma Modelled.properties_agree {key : String} {spec : ModelSpec} {m : ModelDescriptor}
    (h : Modelled scope key spec memo m memo') (hspec : ¬ spec.MapLike) :
    List.Forall₂ (fun p e => p.Agrees ∧ p.StandsFor e.1 e.2) m.properties spec.declared := by
  rw [ModelSpec.declared]
  cases h with
  | mapLike hname hshape hmapLike hmemo => exact (hspec ((mapLike_iff hshape).2 hmapLike)).elim
  | record hname hshape hmapLike hps =>
    rw [hshape]
    exact properties_agrees hps
  | union hname hshape hunion =>
    rw [hshape]
    exact .nil
  | enum hname hshape htype =>
    rw [hshape]
    exact .nil
  | synonym hname hshape hunion htype =>
    split
    · rename_i schema hobject
      rw [hshape schema hobject]
      exact .nil
    · exact .nil

end Scope

/-! ## While names are settled -/

variable {m : ModelDescriptor} {declared : List (String × SchemaNode)}

lemma soleType_rebase (previous current : String) (u : UnionDescriptor) :
    soleType (u.rebase previous current) = soleType u := by
  obtain ⟨_ | ⟨v, _ | ⟨v', vs⟩⟩, _, _⟩ := u <;> rfl

namespace PropertyDescriptor

variable {p v : PropertyDescriptor} {baseName : String} {node : SchemaNode}

/-- New names leave a variant plain. -/
lemma Plain.rename (h : v.Plain) (name baseName : String) :
    Plain { v with name := name, baseName := baseName } :=
  ⟨⟨h.isContainer_eq, h.isListContainer_eq, h.isMapContainer_eq⟩, h.union_eq, h.items_eq⟩

lemma Agrees.rebase (h : p.Agrees) (previous current : String) :
    (p.rebase previous current).Agrees where
  items_eq := h.items_eq
  plain u hu v hv := by
    obtain ⟨u', hu', rfl⟩ := Option.map_eq_some_iff.1 hu
    obtain ⟨v', hv', rfl⟩ := List.mem_map.1 hv
    exact (h.plain u' hu' v' hv').rename _ _

lemma StandsFor.rebase (h : p.StandsFor baseName node) (previous current : String) :
    (p.rebase previous current).StandsFor baseName node where
  baseName_eq := h.baseName_eq
  type_of_array harray u hu := by
    obtain ⟨u', hu', rfl⟩ := Option.map_eq_some_iff.1 hu
    rw [soleType_rebase]
    exact h.type_of_array harray u' hu'
  type_of_other hother u hu := by
    obtain ⟨u', hu', rfl⟩ := Option.map_eq_some_iff.1 hu
    rw [soleType_rebase]
    exact h.type_of_other hother u' hu'

end PropertyDescriptor

namespace ModelDescriptor.Agrees

lemma renamedFrom (h : m.Agrees declared) (previous : String) :
    (m.renamedFrom previous).Agrees declared where
  plain u hu v hv := by
    obtain ⟨u', hu', rfl⟩ := Option.map_eq_some_iff.1 hu
    obtain ⟨v', hv', rfl⟩ := List.mem_map.1 hv
    exact (h.plain u' hu' v' hv').rename _ _
  properties := List.forall₂_map_left_iff.2 (h.properties.imp fun _ _ hp =>
    ⟨hp.1.rebase _ _, hp.2.rebase _ _⟩)

lemma called (h : m.Agrees declared) (className : String) :
    (m.called className).Agrees declared := by
  rw [ModelDescriptor.called]
  split
  · exact h
  · exact renamedFrom (m := m.titled className) ⟨h.plain, h.properties⟩ _

lemma becomes {m' : ModelDescriptor} (h : m.Agrees declared) (hm' : m.Becomes m') :
    m'.Agrees declared := by
  induction hm' with
  | refl => exact h
  | called _ className ih => exact ih.called className
  | asBody _ ih => exact ⟨ih.plain, ih.properties⟩

end ModelDescriptor.Agrees

/-! ## When types are made anew -/

section

variable {classNames : String → Option String} (classNames' : String → Option String)

lemma soleType_mapTypes (u : UnionDescriptor) :
    soleType (u.mapTypes (relabelType classNames')) = relabelType classNames' (soleType u) := by
  obtain ⟨_ | ⟨v, _ | ⟨v', vs⟩⟩, _, _⟩ := u
  · rfl
  · exact v.type_mapTypes _
  · rfl

namespace PropertyDescriptor

variable {p v : PropertyDescriptor} {baseName : String} {node : SchemaNode}

lemma Plain.mapTypes (h : v.Plain) (hcurrent : v.type.Current classNames) :
    (v.mapTypes (relabelType classNames')).Plain := by
  obtain ⟨⟨hcontainer, hlist, hmap⟩, hunion, hitems⟩ := h
  obtain ⟨hisMap, hisList, hitemsAfter⟩ := hcurrent.kind_relabelType classNames'
  rw [mapTypes_eq]
  refine ⟨⟨?_, ?_, ?_⟩, by rw [hunion]; rfl, by rw [hitems, hitemsAfter]⟩
  · rw [(hcurrent.relabelType classNames').isContainer_eq, hisMap, hisList,
      ← hcurrent.isContainer_eq, ← hcontainer]
  · rw [hisList, ← hlist]
  · rw [hisMap, ← hmap]

lemma Agrees.mapTypes (h : p.Agrees) (hcurrent : p.Current classNames) :
    (p.mapTypes (relabelType classNames')).Agrees := by
  obtain ⟨htype, -, hvariants⟩ := current_iff.1 hcurrent
  rw [mapTypes_eq]
  refine ⟨?_, fun u hu v hv => ?_⟩
  · rw [h.items_eq, (htype.kind_relabelType classNames').2.2]
  · obtain ⟨u', hu', rfl⟩ := Option.map_eq_some_iff.1 hu
    obtain ⟨v', hv', rfl⟩ := List.mem_map.1 hv
    exact (h.plain u' hu' v' hv').mapTypes classNames'
      (current_iff.1 (hvariants u' hu' v' hv')).1

lemma StandsFor.mapTypes (h : p.StandsFor baseName node) :
    (p.mapTypes (relabelType classNames')).StandsFor baseName node := by
  rw [mapTypes_eq]
  refine ⟨h.baseName_eq, fun harray u hu => ?_, fun hother u hu => ?_⟩
  · obtain ⟨u', hu', rfl⟩ := Option.map_eq_some_iff.1 hu
    rw [h.type_of_array harray u' hu', TypeDescriptor.relabelType_listOf, ← soleType_mapTypes]
    rfl
  · obtain ⟨u', hu', rfl⟩ := Option.map_eq_some_iff.1 hu
    rw [h.type_of_other hother u' hu', ← soleType_mapTypes]
    rfl

end PropertyDescriptor

/-- A model in a result agrees with its types as it did before. -/
lemma ModelDescriptor.Agrees.finished (h : m.Agrees declared)
    (hcurrent : ∀ t ∈ m.types, t.Current classNames) :
    (m.finished classNames').Agrees declared where
  plain u hu v hv := by
    obtain ⟨u', hu', rfl⟩ := Option.map_eq_some_iff.1 hu
    obtain ⟨v', hv', rfl⟩ := List.mem_map.1 hv
    refine (h.plain u' hu' v' hv').mapTypes classNames' (hcurrent _ ?_)
    exact mem_types_of_mem_unions (List.mem_append_left _ (Option.mem_toList.2 hu'))
      (List.mem_map_of_mem hv')
  properties := by
    have hproperties : ∀ p ∈ m.properties, p.Current classNames := fun p hp t ht =>
      hcurrent t (List.mem_append_left _
        (List.mem_append_right _ (List.mem_flatMap.2 ⟨p, hp, ht⟩)))
    rw [ModelDescriptor.finished, withFacts, relabel, ModelDescriptor.mapTypes]
    refine List.forall₂_map_left_iff.2 (List.forall₂_map_left_iff.2 ?_)
    refine ((List.forall₂_and_left _ _).2 ⟨hproperties, h.properties⟩).imp ?_
    rintro p e ⟨hp, hagrees, hstands⟩
    obtain ⟨hitems, hplain⟩ := hagrees.mapTypes classNames' hp
    obtain ⟨hname, harray, hother⟩ := hstands.mapTypes classNames'
    exact ⟨⟨hitems, hplain⟩, hname, harray, hother⟩

end

/-! ## Results -/

/-- **A model whose properties and variants agree with their types**, at every depth, and whose
properties stand for the declared ones, in order. -/
structure ModelDescriptor.Coherent (declared : List (String × SchemaNode)) (m : ModelDescriptor) :
    Prop where
  properties : List.Forall₂ (fun p e => p.Coherent ∧ p.StandsFor e.1 e.2) m.properties declared
  variants : ∀ u ∈ m.union, ∀ v ∈ u.variants, v.Coherent ∧ v.Marked

lemma ModelDescriptor.Agrees.coherent (h : m.Agrees declared) : m.Coherent declared where
  properties := h.properties.imp fun _ _ hp => ⟨hp.1.coherent, hp.2⟩
  variants u hu v hv := ⟨(h.plain u hu v hv).agrees.coherent, (h.plain u hu v hv).toMarked⟩

namespace ApiDocument.Run

variable {document : ApiDocument} {config : Config} {parts : ResolvedDocument} {api : TypedApi}
  {statistics : Statistics}

/-- A model agrees with its types before names are settled. -/
lemma parts_agree [Spelling] (run : document.Run config parts api statistics) {key : String}
    {spec : ModelSpec} (hspec : (key, spec) ∈ document.models)
    (hm : parts.registry.get? key = some m) :
    m.Agrees (document.declared key spec) := by
  obtain ⟨made, _, _, hmade, ⟨hfirst, hplain, rfl⟩ | ⟨schema, ps, hfirst, hps, rfl⟩⟩ :=
    run.parts_cases hspec hm
  · rw [declared, hfirst]
    exact ⟨hmade.plain, hmade.properties_agree hplain⟩
  · rw [declared, hfirst]
    exact ⟨hmade.plain, Scope.plainProperties_agrees hps⟩

lemma models_coherent [AsciiSpelling] (run : document.Run config parts api statistics)
    {e : String × ModelDescriptor} (he : e ∈ api.models) :
    ∃ spec, (e.2.key, spec) ∈ document.models ∧
      e.2.Coherent (document.declared e.2.key spec) := by
  obtain ⟨left, m, spec, hleft, -, heq, hm, hspec, -, hstable⟩ := run.exists_source he
  have hagrees := (run.parts_agree hspec hm).becomes
    (becomes_settle run.parts_consistent run.parts_legalNames hm hleft)
  have hcurrent : ∀ t ∈ left.types, t.Current parts.registry.className? := by
    rw [hstable _ stable_types]
    exact run.models_current _ (Members.mem_of_get? hm)
  refine ⟨spec, hspec, ?_⟩
  rw [heq] at hagrees ⊢
  exact (hagrees.finished _ hcurrent).coherent

end ApiDocument.Run

end ApiTypes
