import ApiTypes.Proofs.Traversal
import ApiTypes.Proofs.Unions
import ApiTypes.Resolution.Model

/-!
# The models and properties that a run makes

What the descriptors of models and properties look like before names are settled.

* `Scope.Described` — the facts of a property by the kind of its node, one case each;
  `described_of_gives` — there are no others.
* `Scope.exists_described`, `Scope.exists_declared` — where a property of an object or of a model
  comes from.
* `Scope.Modelled` — the descriptors of a model by the shape of its schema, one case each;
  `modelled_of_gives` — there are no others.
* `Scope.AllModelled` — those of all models, in the order of the document.
* `describe_current`, `properties_current`, `Modelled.current` — their types are current.
* `MapLikeMemo.Current` — so are those of the properties that are remembered for map-like objects.
-/

namespace ApiTypes

open Resolving
open TypeDescriptor (Current current_dynamic)

variable {scope : Scope} {classNames : String → Option String}

/-! ## Properties -/

/-- All types in a property are current. -/
def PropertyDescriptor.Current (classNames : String → Option String) (p : PropertyDescriptor) :
    Prop :=
  ∀ t ∈ p.types, t.Current classNames

namespace PropertyDescriptor

lemma current_iff {p : PropertyDescriptor} :
    p.Current classNames ↔ p.type.Current classNames ∧
      (∀ t ∈ p.items, t.Current classNames) ∧
      ∀ u ∈ p.union, ∀ v ∈ u.variants, v.Current classNames := by
  rw [PropertyDescriptor.Current, types_eq]
  constructor
  · intro h
    refine ⟨h _ (by simp), fun t ht => h t (by simp [Option.mem_def.1 ht]), ?_⟩
    intro u hu v hv t ht
    exact h t (List.mem_append_right _ (by simpa [Option.mem_def.1 hu] using ⟨v, hv, ht⟩))
  · rintro ⟨htype, hitems, hvariants⟩ t ht
    rcases List.mem_append.1 ht with ht | ht
    · rcases List.mem_cons.1 ht with rfl | ht
      · exact htype
      · exact hitems t (Option.mem_toList.1 ht)
    · obtain ⟨u, hu, v, hv, ht⟩ : ∃ u, p.union = some u ∧ ∃ v ∈ u.variants, t ∈ v.types := by
        simpa using ht
      exact hvariants u hu v hv t ht

end PropertyDescriptor

/-- Facts whose types are current make a property whose types are. -/
lemma PropertyFacts.property_current [Spelling] {facts : PropertyFacts} {baseName : String}
    {required : Bool} (htype : facts.type.Current classNames)
    (hunion : ∀ u ∈ facts.union, ∀ v ∈ u.variants, v.Current classNames) :
    (facts.property baseName required).Current classNames :=
  PropertyDescriptor.current_iff.2 ⟨htype, fun _ ht => htype.items ht, hunion⟩

lemma soleType_current {u : UnionDescriptor} (h : ∀ v ∈ u.variants, v.Current classNames) :
    (soleType u).Current classNames := by
  rw [soleType]
  split
  · rename_i only honly
    exact (PropertyDescriptor.current_iff.1 (h only (by simp [honly]))).1
  · exact current_dynamic

namespace Scope

lemma flatten_current {name : String} {variants : List SchemaNode} {u : UnionDescriptor}
    (h : Gives (scope.flatten name variants) u) :
    ∀ v ∈ u.variants, v.Current scope.registry.className? := by
  intro v hv
  obtain ⟨node, -, location, type, htype, name, rfl⟩ := exists_variantType h v hv
  exact PropertyDescriptor.current_iff.2
    ⟨htype.current, fun _ ht => htype.current.items ht, by simp [SchemaNode.asVariant]⟩

variable [Spelling]

/-- **What is known about a property**, one case for each kind of node. -/
inductive Described (scope : Scope) (owner : Owner) (baseName : String) (node : SchemaNode) :
    PropertyFacts → Prop where
  | unions {variants : List SchemaNode} {u : UnionDescriptor}
      (hitems : node.itemVariants? = some variants)
      (hunion : Gives (scope.flatten (owner.nestedName baseName) variants) u) :
      Described scope owner baseName node { type := .listOf (soleType u), union := some u }
  | union {kind : UnionKind} {variants : List SchemaNode} {u : UnionDescriptor}
      (hshape : node.shape = .union kind variants)
      (hunion : Gives (scope.flatten (owner.nestedName baseName) variants) u) :
      Described scope owner baseName node { type := soleType u, union := some u }
  | scalar {schema : ScalarSchema} {type : TypeDescriptor} (hshape : node.shape = .scalar schema)
      (hvalues : schema.enumValues = []) (htype : scope.scalarType schema = .ok type) :
      Described scope owner baseName node { type := type }
  | enum {schema : ScalarSchema} {type : TypeDescriptor} (hshape : node.shape = .scalar schema)
      (hvalues : schema.enumValues ≠ []) (htype : scope.scalarType schema = .ok type) :
      Described scope owner baseName node
        { type := type
          enumValues := some (describeEnum (owner.nestedName baseName) schema.enumValues) }
  | other {type : TypeDescriptor} (hitems : node.itemVariants? = none)
      (hunion : ∀ kind variants, node.shape ≠ .union kind variants)
      (hscalar : ∀ schema, node.shape ≠ .scalar schema)
      (htype : Gives (scope.schemaType node (propertyLocation owner.location baseName)) type) :
      Described scope owner baseName node { type := type }

section

variable {owner : Owner} {baseName : String} {node : SchemaNode} {facts : PropertyFacts}

lemma described_of_gives (h : Gives (scope.describe owner baseName node) facts) :
    Described scope owner baseName node facts := by
  rw [describe.eq_def] at h
  simp only at h
  split at h
  · rename_i hitems
    obtain ⟨u, hu, h⟩ := gives_bind.1 h
    exact gives_pure.1 h ▸ .unions hitems hu
  rename_i hitems
  split at h
  · rename_i hshape
    obtain ⟨u, hu, h⟩ := gives_bind.1 h
    exact gives_pure.1 h ▸ .union hshape hu
  · rename_i schema hshape
    obtain ⟨type, htype, h⟩ := gives_bind.1 h
    split at h
    · rename_i hvalues
      exact gives_pure.1 h ▸ .scalar hshape (List.isEmpty_iff.1 hvalues) (gives_located.1 htype)
    · rename_i hvalues
      exact gives_pure.1 h ▸ .enum hshape (fun hnil => hvalues (List.isEmpty_iff.2 hnil))
        (gives_located.1 htype)
  · rename_i hunion hscalar
    obtain ⟨type, htype, h⟩ := gives_bind.1 h
    exact gives_pure.1 h ▸ .other hitems (fun _ _ hshape => (hunion _ _ hshape).elim)
      (fun _ hshape => (hscalar _ hshape).elim) htype

/-- The types in the facts of a property are current. -/
lemma describe_current (h : Gives (scope.describe owner baseName node) facts) :
    facts.type.Current scope.registry.className? ∧
      ∀ u ∈ facts.union, ∀ v ∈ u.variants, v.Current scope.registry.className? := by
  cases described_of_gives h with
  | unions hitems hunion =>
    have hvariants := flatten_current hunion
    exact ⟨.listOf (soleType_current hvariants), by simpa using hvariants⟩
  | union hshape hunion =>
    have hvariants := flatten_current hunion
    exact ⟨soleType_current hvariants, by simpa using hvariants⟩
  | scalar hshape hvalues htype => exact ⟨scalarType_current htype, by simp⟩
  | enum hshape hvalues htype => exact ⟨scalarType_current htype, by simp⟩
  | other hitems hunion hscalar htype => exact ⟨schemaType_current node _ _ htype, by simp⟩

end

/-- **Where a property of an object comes from**: from what the node of a declared one describes. -/
lemma exists_described {owner : Owner} {schema : ObjectSchema} {ps : List PropertyDescriptor}
    (h : Gives (scope.plainProperties owner schema) ps) :
    ∀ p ∈ ps, ∃ e ∈ schema.properties, ∃ facts, Gives (scope.describe owner e.1 e.2) facts ∧
      p = facts.property e.1 (schema.isRequired e.1) := by
  intro p hp
  obtain ⟨e, he, hgives⟩ := exists_of_gives_mapM h hp
  obtain ⟨facts, hfacts, hpure⟩ := gives_bind.1 hgives
  exact ⟨e, he, facts, hfacts, (gives_pure.1 hpure).symm⟩

lemma plainProperties_current {owner : Owner} {schema : ObjectSchema}
    {ps : List PropertyDescriptor} (h : Gives (scope.plainProperties owner schema) ps) :
    ∀ p ∈ ps, p.Current scope.registry.className? := by
  intro p hp
  obtain ⟨e, -, facts, hfacts, rfl⟩ := exists_described h p hp
  exact PropertyFacts.property_current (describe_current hfacts).1 (describe_current hfacts).2

end Scope

/-! ## Map-like objects -/

/-- The types in the properties of all remembered objects are current. -/
def MapLikeMemo.Current (classNames : String → Option String) (memo : MapLikeMemo) : Prop :=
  ∀ e ∈ memo, ∀ p ∈ e.2, p.Current classNames

lemma mapLikeType_current : mapLikeType.Current classNames :=
  .mapOf current_dynamic

variable [Spelling]

namespace Scope

variable {memo memo' : MapLikeMemo} {owner : Owner}

/-- A name that is met first is remembered with the properties of its object; one that was met
before changes nothing. -/
lemma rememberMapLike_cases {name : String} {schema : ObjectSchema}
    (h : Gives (scope.rememberMapLike memo name schema) memo') :
    (name ∈ Members.names memo ∧ memo' = memo) ∨
      (name ∉ Members.names memo ∧
        ∃ ps, Gives (scope.plainProperties (.anonymous name) schema) ps ∧
          memo' = memo ++ [(name, ps)]) := by
  rw [rememberMapLike] at h
  split at h
  · rename_i hmem
    exact Or.inl ⟨Members.has_iff.1 hmem, (gives_pure.1 h).symm⟩
  · rename_i hmem
    obtain ⟨ps, hps, h⟩ := gives_bind.1 h
    exact Or.inr ⟨fun hn => hmem (Members.has_iff.2 hn), ps, hps, (gives_pure.1 h).symm⟩

lemma rememberMapLike_current {name : String} {schema : ObjectSchema}
    (h : Gives (scope.rememberMapLike memo name schema) memo')
    (hmemo : memo.Current scope.registry.className?) :
    memo'.Current scope.registry.className? := by
  obtain ⟨-, rfl⟩ | ⟨-, ps, hps, rfl⟩ := rememberMapLike_cases h
  · exact hmemo
  · intro e he
    rcases List.mem_append.1 he with he | he
    · exact hmemo e he
    · rw [List.mem_singleton.1 he]
      exact plainProperties_current hps

/-- A property is a map-like object, which is remembered, or it is described by its node. -/
lemma property_cases {baseName : String} {node : SchemaNode} {required : Bool}
    {p : PropertyDescriptor}
    (h : Gives (scope.property owner baseName node required memo) (p, memo')) :
    (∃ schema, node.mapLike? = some schema ∧
        Gives (scope.rememberMapLike memo (propertyLocation owner.location baseName) schema) memo' ∧
        p = PropertyFacts.property { type := mapLikeType } baseName required) ∨
      (node.mapLike? = none ∧ memo' = memo ∧
        ∃ facts, Gives (scope.describe owner baseName node) facts ∧
          p = facts.property baseName required) := by
  rw [property] at h
  split at h
  · rename_i schema hschema
    simp only [gives_bind, gives_pure, Prod.mk.injEq] at h
    obtain ⟨memo'', hmemo, rfl, rfl⟩ := h
    exact Or.inl ⟨schema, hschema, hmemo, rfl⟩
  · rename_i hnone
    simp only [gives_bind, gives_pure, Prod.mk.injEq] at h
    obtain ⟨facts, hfacts, rfl, rfl⟩ := h
    exact Or.inr ⟨hnone, rfl, facts, hfacts, rfl⟩

lemma property_current {baseName : String} {node : SchemaNode} {required : Bool}
    {p : PropertyDescriptor}
    (h : Gives (scope.property owner baseName node required memo) (p, memo'))
    (hmemo : memo.Current scope.registry.className?) :
    p.Current scope.registry.className? ∧ memo'.Current scope.registry.className? := by
  obtain ⟨schema, -, hremember, rfl⟩ | ⟨-, rfl, facts, hfacts, rfl⟩ := property_cases h
  · exact ⟨PropertyFacts.property_current mapLikeType_current (by simp),
      rememberMapLike_current hremember hmemo⟩
  · exact ⟨PropertyFacts.property_current (describe_current hfacts).1 (describe_current hfacts).2,
      hmemo⟩

lemma properties_cons {required : String → Bool} {baseName : String} {node : SchemaNode}
    {rest : List (String × SchemaNode)} {ps : List PropertyDescriptor}
    (h : Gives (scope.properties owner required ((baseName, node) :: rest) memo) (ps, memo')) :
    ∃ p between ps',
      Gives (scope.property owner baseName node (required baseName) memo) (p, between) ∧
      Gives (scope.properties owner required rest between) (ps', memo') ∧ ps = p :: ps' := by
  simp only [properties, gives_bind, gives_pure, Prod.mk.injEq, Prod.exists] at h
  obtain ⟨p, between, hp, ps', memo'', hps, rfl, rfl⟩ := h
  exact ⟨p, between, ps', hp, hps, rfl⟩

/-- **Where a property of a model comes from**: from one that is declared, a map-like object or what
its node describes. -/
lemma exists_declared {required : String → Bool} {declared : List (String × SchemaNode)}
    {ps : List PropertyDescriptor}
    (h : Gives (scope.properties owner required declared memo) (ps, memo')) :
    ∀ p ∈ ps, ∃ e ∈ declared,
      (e.2.mapLike?.isSome = true ∧
        p = PropertyFacts.property { type := mapLikeType } e.1 (required e.1)) ∨
      (e.2.mapLike? = none ∧ ∃ facts, Gives (scope.describe owner e.1 e.2) facts ∧
        p = facts.property e.1 (required e.1)) := by
  induction declared generalizing memo ps with
  | nil =>
    simp only [properties, gives_pure, Prod.mk.injEq] at h
    simp [← h.1]
  | cons e rest ih =>
    obtain ⟨p, between, ps', hp, hps, rfl⟩ := properties_cons h
    refine List.forall_mem_cons.2 ⟨⟨e, List.mem_cons_self, ?_⟩, fun p hp => ?_⟩
    · obtain ⟨schema, hnode, -, rfl⟩ | ⟨hnode, -, hdescribed⟩ := property_cases hp
      · exact Or.inl ⟨by rw [hnode]; rfl, rfl⟩
      · exact Or.inr ⟨hnode, hdescribed⟩
    · obtain ⟨e', he', hp⟩ := ih hps p hp
      exact ⟨e', List.mem_cons_of_mem _ he', hp⟩

lemma properties_current {required : String → Bool} {declared : List (String × SchemaNode)}
    {ps : List PropertyDescriptor}
    (h : Gives (scope.properties owner required declared memo) (ps, memo'))
    (hmemo : memo.Current scope.registry.className?) :
    (∀ p ∈ ps, p.Current scope.registry.className?) ∧ memo'.Current scope.registry.className? := by
  induction declared generalizing memo ps with
  | nil =>
    simp only [properties, gives_pure, Prod.mk.injEq] at h
    obtain ⟨rfl, rfl⟩ := h
    exact ⟨by simp, hmemo⟩
  | cons e rest ih =>
    obtain ⟨p, between, ps', hp, hps, rfl⟩ := properties_cons h
    obtain ⟨hp, hbetween⟩ := property_current hp hmemo
    obtain ⟨hps, hmemo'⟩ := ih hps hbetween
    exact ⟨List.forall_mem_cons.2 ⟨hp, hps⟩, hmemo'⟩

/-! ## Models -/

/-- **The descriptors of a model**, one case for each kind of schema: what the model is, and which
map-like objects are remembered after it. -/
inductive Modelled (scope : Scope) (key : String) (spec : ModelSpec) (memo : MapLikeMemo) :
    ModelDescriptor → MapLikeMemo → Prop where
  | mapLike {className : String} {schema : ObjectSchema} {memo' : MapLikeMemo}
      (hname : scope.registry.className? key = some className)
      (hshape : spec.schema.shape = .object schema) (hmapLike : schema.isMapLike = true)
      (hmemo : Gives (scope.rememberMapLike memo key schema) memo') :
      Modelled scope key spec memo
        { key := key, className := className, origin := spec.origin
          type := some mapLikeType, flags := [.record] } memo'
  | record {className : String} {schema : ObjectSchema} {ps : List PropertyDescriptor}
      {memo' : MapLikeMemo} (hname : scope.registry.className? key = some className)
      (hshape : spec.schema.shape = .object schema) (hmapLike : schema.isMapLike = false)
      (hps : Gives (scope.properties ⟨key, className⟩ schema.isRequired schema.properties memo)
        (ps, memo'))
      (hdeclared : schema.properties ≠ []) :
      Modelled scope key spec memo
        { key := key, className := className, origin := spec.origin
          properties := ps, flags := [.record] } memo'
  | union {className : String} {kind : UnionKind} {variants : List SchemaNode}
      {u : UnionDescriptor} (hname : scope.registry.className? key = some className)
      (hshape : spec.schema.shape = .union kind variants)
      (hunion : Gives (scope.flatten className variants) u) :
      Modelled scope key spec memo
        { key := key, className := className, origin := spec.origin
          union := some u, flags := [.union] } memo
  | enum {className : String} {schema : ScalarSchema} {type : TypeDescriptor}
      (hname : scope.registry.className? key = some className)
      (hshape : spec.schema.shape = .scalar schema)
      (htype : scope.scalarType schema = .ok type) (hvalues : schema.enumValues ≠ []) :
      Modelled scope key spec memo
        { key := key, className := className, origin := spec.origin
          enumValues := some (describeEnum className schema.enumValues), type := some type
          flags := [.enum] } memo
  | synonym {className : String} {type : TypeDescriptor}
      (hname : scope.registry.className? key = some className)
      (hshape : ∀ schema, spec.schema.shape = .object schema → schema.properties = [])
      (hunion : ∀ kind variants, spec.schema.shape ≠ .union kind variants)
      (htype : Gives (scope.schemaType spec.schema key) type)
      (hscalar : ∀ schema, spec.schema.shape = .scalar schema → schema.enumValues = []) :
      Modelled scope key spec memo
        { key := key, className := className, origin := spec.origin
          type := some type, flags := [.alias] } memo

lemma modelled_of_gives {key : String} {spec : ModelSpec} {m : ModelDescriptor}
    (h : Gives (scope.model key spec memo) (m, memo')) : Modelled scope key spec memo m memo' := by
  rw [model] at h
  simp only at h
  split at h
  case h_2 =>
    obtain ⟨_, hfail, -⟩ := gives_bind.1 h
    exact absurd hfail not_gives_failWith
  rename_i className hname
  rw [pure_bind] at h
  split at h
  · rename_i schema hshape
    split at h
    · rename_i hmapLike
      simp only [gives_bind, gives_pure, Prod.mk.injEq] at h
      obtain ⟨memo'', hmemo, rfl, rfl⟩ := h
      exact .mapLike hname hshape hmapLike hmemo
    · rename_i hmapLike
      split at h
      · rename_i hempty
        simp only [gives_bind, gives_pure, Prod.mk.injEq] at h
        obtain ⟨type, htype, rfl, rfl⟩ := h
        refine .synonym hname ?_ (by simp [hshape]) htype (by simp [hshape])
        intro schema' hshape'
        rw [hshape] at hshape'
        injection hshape' with hshape'
        exact hshape' ▸ List.isEmpty_iff.1 hempty
      · rename_i hempty
        simp only [gives_bind, gives_pure, Prod.mk.injEq, Prod.exists] at h
        obtain ⟨ps, memo'', hps, rfl, rfl⟩ := h
        exact .record hname hshape (by simpa using hmapLike) hps
          fun hnil => hempty (List.isEmpty_iff.2 hnil)
  · rename_i kind variants hshape
    simp only [gives_bind, gives_pure, Prod.mk.injEq] at h
    obtain ⟨u, hu, rfl, rfl⟩ := h
    exact .union hname hshape hu
  · rename_i schema hshape
    split at h
    · rename_i hempty
      simp only [gives_bind, gives_pure, Prod.mk.injEq] at h
      obtain ⟨type, htype, rfl, rfl⟩ := h
      refine .synonym hname (by simp [hshape]) (by simp [hshape]) htype ?_
      intro schema' hshape'
      rw [hshape] at hshape'
      injection hshape' with hshape'
      exact hshape' ▸ List.isEmpty_iff.1 hempty
    · rename_i hempty
      simp only [gives_bind, gives_located, gives_pure, Prod.mk.injEq] at h
      obtain ⟨type, htype, rfl, rfl⟩ := h
      exact .enum hname hshape htype fun hnil => hempty (List.isEmpty_iff.2 hnil)
  · rename_i hobject hunion hscalar
    simp only [gives_bind, gives_pure, Prod.mk.injEq] at h
    obtain ⟨type, htype, rfl, rfl⟩ := h
    refine .synonym hname (fun schema hshape => ?_) (fun kind variants hshape => ?_) htype
      fun schema hshape => ?_
    · exact (hobject schema hshape).elim
    · exact (hunion kind variants hshape).elim
    · exact (hscalar schema hshape).elim

namespace Modelled

variable {key : String} {spec : ModelSpec} {m : ModelDescriptor}

lemma key_eq (h : Modelled scope key spec memo m memo') : m.key = key := by
  cases h <;> rfl

lemma className_eq (h : Modelled scope key spec memo m memo') :
    scope.registry.className? key = some m.className := by
  cases h <;> assumption

lemma origin_eq (h : Modelled scope key spec memo m memo') : m.origin = spec.origin := by
  cases h <;> rfl

lemma not_renamed (h : Modelled scope key spec memo m memo') : ModelFlag.renamed ∉ m.flags := by
  cases h <;> simp

/-- A model is a union when its schema is one. -/
lemma isUnion_iff (h : Modelled scope key spec memo m memo') :
    m.isUnion = true ↔ ∃ kind variants, spec.schema.shape = .union kind variants := by
  cases h with
  | union hname hshape hunion => simp [ModelDescriptor.isUnion, hshape]
  | mapLike hname hshape => simp [ModelDescriptor.isUnion, hshape]
  | record hname hshape => simp [ModelDescriptor.isUnion, hshape]
  | enum hname hshape => simp [ModelDescriptor.isUnion, hshape]
  | synonym hname hshape hunion => simp [ModelDescriptor.isUnion, hunion]

/-- The types in a model are current, and so are those that are remembered after it. -/
lemma current (h : Modelled scope key spec memo m memo')
    (hmemo : memo.Current scope.registry.className?) :
    (∀ t ∈ m.types, t.Current scope.registry.className?) ∧
      memo'.Current scope.registry.className? := by
  rw [ModelDescriptor.types, ModelDescriptor.variants]
  cases h with
  | mapLike hname hshape hmapLike hremember =>
    exact ⟨by simp [mapLikeType_current], rememberMapLike_current hremember hmemo⟩
  | record hname hshape hmapLike hps =>
    obtain ⟨hps, hmemo'⟩ := properties_current hps hmemo
    refine ⟨?_, hmemo'⟩
    intro t ht
    simp only [Option.toList_none, List.nil_append, List.flatMap_nil, List.append_nil,
      List.mem_flatMap] at ht
    obtain ⟨p, hp, ht⟩ := ht
    exact hps p hp t ht
  | union hname hshape hunion =>
    refine ⟨?_, hmemo⟩
    intro t ht
    simp only [Option.toList_none, List.nil_append, List.flatMap_nil, List.mem_flatMap] at ht
    obtain ⟨v, hv, ht⟩ := ht
    exact flatten_current hunion v hv t ht
  | enum hname hshape htype => exact ⟨by simp [scalarType_current htype], hmemo⟩
  | synonym hname hshape hunion htype => exact ⟨by simp [schemaType_current _ _ _ htype], hmemo⟩

end Modelled

lemma models_cons {key : String} {spec : ModelSpec} {rest : List (String × ModelSpec)}
    {ms : List ModelDescriptor}
    (h : Gives (scope.models ((key, spec) :: rest) memo) (ms, memo')) :
    ∃ m between ms', Modelled scope key spec memo m between ∧
      Gives (scope.models rest between) (ms', memo') ∧ ms = m :: ms' := by
  simp only [models, gives_bind, gives_pure, Prod.mk.injEq, Prod.exists] at h
  obtain ⟨m, between, hm, ms', memo'', hms, rfl, rfl⟩ := h
  exact ⟨m, between, ms', modelled_of_gives hm, hms, rfl⟩

/-- Models in the order of the document, each made from its own part. -/
def AllModelled (scope : Scope) : List (String × ModelSpec) → List ModelDescriptor → Prop :=
  List.Forall₂ fun e m => ∃ before after, Modelled scope e.1 e.2 before m after

lemma allModelled_of_gives {specs : List (String × ModelSpec)} {ms : List ModelDescriptor}
    (h : Gives (scope.models specs memo) (ms, memo')) : scope.AllModelled specs ms := by
  induction specs generalizing memo ms with
  | nil =>
    simp only [models, gives_pure, Prod.mk.injEq] at h
    exact h.1 ▸ .nil
  | cons e rest ih =>
    obtain ⟨m, between, ms', hm, hms, rfl⟩ := models_cons h
    exact .cons ⟨memo, between, hm⟩ (ih hms)

namespace AllModelled

variable {specs : List (String × ModelSpec)} {ms : List ModelDescriptor}

lemma keys_eq (h : scope.AllModelled specs ms) : ms.map (·.key) = Members.names specs := by
  induction h with
  | nil => rfl
  | cons hm _ ih =>
    obtain ⟨before, after, hm⟩ := hm
    rw [List.map_cons, hm.key_eq, ih]
    rfl

lemma exists_modelled (h : scope.AllModelled specs ms) {key : String} {spec : ModelSpec}
    (he : (key, spec) ∈ specs) :
    ∃ m ∈ ms, ∃ before after, Modelled scope key spec before m after := by
  induction h with
  | nil => cases he
  | cons hm _ ih =>
    rcases List.mem_cons.1 he with heq | he
    · rw [← heq] at hm
      exact ⟨_, List.mem_cons_self, hm⟩
    · obtain ⟨m, hmem, hm⟩ := ih he
      exact ⟨m, List.mem_cons_of_mem _ hmem, hm⟩

end AllModelled

lemma models_current {specs : List (String × ModelSpec)} {ms : List ModelDescriptor}
    (h : Gives (scope.models specs memo) (ms, memo'))
    (hmemo : memo.Current scope.registry.className?) :
    (∀ m ∈ ms, ∀ t ∈ m.types, t.Current scope.registry.className?) ∧
      memo'.Current scope.registry.className? := by
  induction specs generalizing memo ms with
  | nil =>
    simp only [models, gives_pure, Prod.mk.injEq] at h
    obtain ⟨rfl, rfl⟩ := h
    exact ⟨by simp, hmemo⟩
  | cons e rest ih =>
    obtain ⟨m, between, ms', hm, hms, rfl⟩ := models_cons h
    obtain ⟨hm, hbetween⟩ := hm.current hmemo
    obtain ⟨hms, hmemo'⟩ := ih hms hbetween
    exact ⟨List.forall_mem_cons.2 ⟨hm, hms⟩, hmemo'⟩

end Scope

end ApiTypes
