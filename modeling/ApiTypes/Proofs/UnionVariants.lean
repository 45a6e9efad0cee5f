import ApiTypes.Proofs.Losses
import ApiTypes.Proofs.ModelContent
import ApiTypes.Proofs.TypeEquality
import ApiTypes.Text.Latin

/-!
# The variants of unions

Duplicates among the variants of a union are left out once, when the union is made, under the names
that types have at that time.  Later names do not bring two variants together, for they still tell
apart what the types are built of.  What does is the loss of models: variants that lead to nothing
become the type of any value, and there may be more than one of them.

* `UnionOf.Distinct`, `UnionOf.Flattened` — a union whose variants differ, as it is made.
* `flatten_flattened`, `describe_flattened`, `Modelled.flattened` — unions are made so.
* `TypeDescriptor.AnyValue` — types that end up as that of any value, in whatever containers.
* `Run.sameType_relabelType_iff` — **which different types come to be the same.**
* `UnionOf.Follows` — a union before and after names were settled; `unions_follow` — all unions of a
  result follow those that were made.
-/

namespace ApiTypes

open Resolving

/-! ## Unions whose variants differ -/

namespace UnionOf

/-- The types of the variants of a union. -/
def types (u : UnionDescriptor) : List TypeDescriptor :=
  u.variants.map (·.type)

/-- No two variants of a union count as the same type. -/
def Distinct (u : UnionDescriptor) : Prop :=
  u.types.Pairwise fun t t' => t.sameType t' = false

/-- **A union as it is made.**  Its variants differ, are no unions themselves, and are counted. -/
structure Flattened (u : UnionDescriptor) : Prop where
  distinct : u.Distinct
  flat : ∀ v ∈ u.variants, v.union = none
  variantCount_eq : u.variantCount = u.variants.length

end UnionOf

/-- The variants differ when the names do that types are compared by. -/
lemma UnionOf.distinct_iff {u : UnionDescriptor} :
    u.Distinct ↔ (u.types.map (·.canonicalName)).Nodup := by
  rw [Distinct, List.Nodup, List.pairwise_map]
  simp only [TypeDescriptor.sameType, beq_eq_false_iff_ne]

/-- A property whose union, if it has one, is as unions are made. -/
def PropertyDescriptor.Flattened (p : PropertyDescriptor) : Prop :=
  ∀ u ∈ p.union, u.Flattened

/-- The unions of a model: its own, and those of its properties. -/
def ModelDescriptor.unions (m : ModelDescriptor) : List UnionDescriptor :=
  m.union.toList ++ m.properties.flatMap (·.union.toList)

namespace Scope

variable {scope : Scope} {memo memo' : MapLikeMemo} {owner : Owner}

/-- **Unions are made of variants that differ.** -/
lemma flatten_flattened {name : String} {variants : List SchemaNode} {u : UnionDescriptor}
    (h : Gives (scope.flatten name variants) u) : u.Flattened where
  distinct := by
    obtain ⟨ps, -, rfl⟩ := gives_flatten.1 h
    rw [UnionOf.Distinct, UnionOf.types, unionOf, types_numberVariants, List.pairwise_map]
    exact firstSeen_pairwise _ ps
  flat v hv := by
    obtain ⟨node, -, location, type, -, name, rfl⟩ := exists_variantType h v hv
    rfl
  variantCount_eq := by
    obtain ⟨ps, -, rfl⟩ := gives_flatten.1 h
    exact (forall₂_numberVariants name _ 0).length_eq.symm

variable [Spelling]

lemma describe_flattened {baseName : String} {node : SchemaNode} {facts : PropertyFacts}
    (h : Gives (scope.describe owner baseName node) facts) : ∀ u ∈ facts.union, u.Flattened := by
  cases described_of_gives h with
  | unions hitems hunion => simpa using flatten_flattened hunion
  | union hshape hunion => simpa using flatten_flattened hunion
  | _ => simp

lemma plainProperties_flattened {schema : ObjectSchema} {ps : List PropertyDescriptor}
    (h : Gives (scope.plainProperties owner schema) ps) : ∀ p ∈ ps, p.Flattened := by
  intro p hp
  obtain ⟨e, -, facts, hfacts, rfl⟩ := exists_described h p hp
  exact describe_flattened hfacts

lemma properties_flattened {required : String → Bool} {declared : List (String × SchemaNode)}
    {ps : List PropertyDescriptor}
    (h : Gives (scope.properties owner required declared memo) (ps, memo')) :
    ∀ p ∈ ps, p.Flattened := by
  intro p hp
  obtain ⟨e, -, ⟨-, rfl⟩ | ⟨-, facts, hfacts, rfl⟩⟩ := exists_declared h p hp
  · simp [PropertyDescriptor.Flattened, PropertyFacts.property]
  · exact describe_flattened hfacts

lemma Modelled.flattened {key : String} {spec : ModelSpec} {m : ModelDescriptor}
    (h : Modelled scope key spec memo m memo') : ∀ u ∈ m.unions, u.Flattened := by
  cases h with
  | mapLike hname hshape hmapLike hmemo => simp [ModelDescriptor.unions]
  | record hname hshape hmapLike hps =>
    simpa [ModelDescriptor.unions] using fun u p hp hu => properties_flattened hps p hp u hu
  | union hname hshape hunion => simpa [ModelDescriptor.unions] using flatten_flattened hunion
  | enum hname hshape htype => simp [ModelDescriptor.unions]
  | synonym hname hshape hunion htype => simp [ModelDescriptor.unions]

end Scope

/-! ## Unions while names are settled -/

namespace ModelDescriptor

variable {m m' : ModelDescriptor}

/-- What changes all unions inside a model in one way. -/
lemma unions_eq_map {f : UnionDescriptor → UnionDescriptor}
    {g : PropertyDescriptor → PropertyDescriptor} (hunion : m'.union = m.union.map f)
    (hproperties : m'.properties = m.properties.map g) (hg : ∀ p, (g p).union = p.union.map f) :
    m'.unions = m.unions.map f := by
  have htoList : ∀ o : Option UnionDescriptor, (o.map f).toList = o.toList.map f := by
    rintro (_ | _) <;> rfl
  simp only [unions, hunion, hproperties, List.flatMap_map, hg, htoList, List.map_append,
    List.map_flatMap]

/-- The types of variants are types of the model. -/
lemma mem_types_of_mem_unions {u : UnionDescriptor} {t : TypeDescriptor} (hu : u ∈ m.unions)
    (ht : t ∈ u.types) : t ∈ m.types := by
  obtain ⟨v, hv, rfl⟩ := List.mem_map.1 ht
  have hvariant : v.type ∈ v.types := by
    rw [PropertyDescriptor.types_eq]
    exact List.mem_append_left _ List.mem_cons_self
  rw [types]
  rcases List.mem_append.1 hu with hu | hu
  · refine List.mem_append_right _ (List.mem_flatMap.2 ⟨v, ?_, hvariant⟩)
    rw [variants, Option.mem_toList.1 hu]
    exact hv
  · obtain ⟨p, hp, hu⟩ := List.mem_flatMap.1 hu
    refine List.mem_append_left _ (List.mem_append_right _ (List.mem_flatMap.2 ⟨p, hp, ?_⟩))
    rw [PropertyDescriptor.types_eq]
    exact List.mem_append_right _
      (List.mem_flatMap.2 ⟨u, hu, List.mem_flatMap.2 ⟨v, hv, hvariant⟩⟩)

end ModelDescriptor

/-- What is seen of a union but for names and facts. -/
def UnionOf.content (u : UnionDescriptor) :
    List (TypeDescriptor × Option UnionDescriptor) × Nat :=
  (u.variants.map fun v => (v.type, v.union), u.variantCount)

lemma UnionOf.content_rebase (previous current : String) (u : UnionDescriptor) :
    (u.rebase previous current).content = u.content := by
  simp [content, rebase]

/-- Settling changes nothing but names inside unions. -/
lemma ModelDescriptor.stable_unions : Stable fun m => m.unions.map (·.content) where
  titled _ _ := rfl
  renamedFrom previous m := by
    have hunions : (m.renamedFrom previous).unions =
        m.unions.map (·.rebase previous m.className) :=
      unions_eq_map rfl rfl fun _ => rfl
    simp only [hunions, List.map_map, Function.comp_def, UnionOf.content_rebase]
  asBody _ := rfl

/-- A union with each type of its variants changed. -/
def UnionOf.mapTypes (f : TypeDescriptor → TypeDescriptor) (u : UnionDescriptor) :
    UnionDescriptor :=
  { u with variants := u.variants.map (·.mapTypes f) }

lemma ModelDescriptor.unions_finished (classNames : String → Option String)
    (m : ModelDescriptor) :
    (m.finished classNames).unions = m.unions.map (·.mapTypes (relabelType classNames)) := by
  refine unions_eq_map (g := fun p => (p.mapTypes (relabelType classNames)).withFacts) rfl ?_ ?_
  · exact List.map_map
  · intro p
    rw [PropertyDescriptor.mapTypes_eq]
    rfl

/-! ## Types that come to be the same -/

/-- A type that ends up as that of any value, in whatever containers: it is that from the start, or
leads to a model that is not in the result. -/
def TypeDescriptor.AnyValue (api : TypedApi) (t : TypeDescriptor) : Prop :=
  t.leaf.isDynamic = true ∨ (t.lost? api).isSome = true

namespace TypeDescriptor

variable {api : TypedApi} {classNames : String → Option String} {t t' : TypeDescriptor}

lemma atom_eq_value_of_build (h : t.build.2 = .primitive .value) :
    t.leaf.atom = .primitive .value := by
  rw [build] at h
  split at h
  · cases h
  · exact h

/-- Of the leaves of types that a run makes just one is called like the type of any value. -/
lemma Current.isDynamic_leaf_iff (hnames : Unambiguous classNames) (ht : t.Current classNames) :
    t.leaf.isDynamic = true ↔ t.leaf.atom = .primitive .value := by
  rw [isDynamic, beq_iff_eq]
  obtain ⟨p, hatom, hleaf⟩ | ⟨key, className, hname, hatom, hleaf⟩ := ht.atom_cases
  · rw [hatom, hleaf, Atom.primitive.injEq]
    exact ⟨Primitive.name_injective, congrArg Primitive.name⟩
  · rw [hatom, hleaf]
    exact iff_of_false (ne_primitive_of_legal (hnames.legal hname) .value) (by simp)

namespace Degrades

lemma build_of_lost (h : t.Degrades api t') {key : String} (hlost : t.lost? api = some key) :
    t'.build = (t.nesting, .primitive .value) := by
  have hatom : t'.leaf.atom = .primitive .value := by
    rw [h.leaf_of_lost key hlost]
    rfl
  rw [build_of_primitive hatom (by decide), h.nesting_eq]

/-- A type that leads to a model of the result is built of the same as before. -/
lemma build_of_kept (h : t.Degrades api t') (hkept : t.lost? api = none) : t'.build = t.build := by
  have hatom : t'.leaf.atom = t.leaf.atom := by
    obtain ⟨-, hleaf⟩ | ⟨e, -, hkey, hleaf⟩ := h.leaf_of_kept hkept
    · rw [hleaf]
    · rw [hleaf, atom, atom, hkey]
  rw [build, build, hatom, h.nesting_eq]

end Degrades

end TypeDescriptor

namespace ApiDocument.Run

open TypeDescriptor (Current)

variable [Spelling] {document : ApiDocument} {config : Config} {parts : ResolvedDocument}
  {api : TypedApi} {statistics : Statistics} {t u : TypeDescriptor}

lemma unambiguous_parts (run : document.Run config parts api statistics) :
    Unambiguous parts.registry.className? :=
  run.parts_consistent.unambiguous run.parts_legalNames

lemma unambiguous_settled (run : document.Run config parts api statistics) :
    Unambiguous (parts.settled document config).registry.className? :=
  run.settled_consistent.unambiguous run.settled_legalNames

section

variable (run : document.Run config parts api statistics)
  (ht : t.Current parts.registry.className?) (hu : u.Current parts.registry.className?)

include run ht

/-- What a type is built of in the end: as before, or of any value. -/
lemma build_relabelType :
    (t.AnyValue api ∧
        (relabelType (parts.settled document config).registry.className? t).build =
          (t.nesting, .primitive .value)) ∨
      (¬ t.AnyValue api ∧ t.build.2 ≠ .primitive .value ∧
        (relabelType (parts.settled document config).registry.className? t).build = t.build) := by
  have hdegrades := run.degrades ht
  have hdynamic := ht.isDynamic_leaf_iff run.unambiguous_parts
  cases hlost : t.lost? api with
  | some key => exact Or.inl ⟨Or.inr (by rw [hlost]; rfl), hdegrades.build_of_lost hlost⟩
  | none =>
    rw [hdegrades.build_of_kept hlost]
    by_cases hatom : t.leaf.atom = .primitive .value
    · exact Or.inl ⟨Or.inl (hdynamic.2 hatom), TypeDescriptor.build_of_primitive hatom (by decide)⟩
    · refine Or.inr ⟨?_, fun hbuild => hatom (TypeDescriptor.atom_eq_value_of_build hbuild), rfl⟩
      rintro (hleaf | hsome)
      · exact hatom (hdynamic.1 hleaf)
      · rw [hlost] at hsome
        cases hsome

include hu

/-- **Different types come to be the same** just when both end up as that of any value, in the same
containers. -/
theorem sameType_relabelType_iff (hne : t.sameType u = false) :
    (relabelType (parts.settled document config).registry.className? t).sameType
        (relabelType (parts.settled document config).registry.className? u) = true ↔
      t.nesting = u.nesting ∧ t.AnyValue api ∧ u.AnyValue api := by
  have hbuild : t.build ≠ u.build := by
    rw [ne_eq, ← ht.sameType_iff run.unambiguous_parts hu, hne]
    exact Bool.false_ne_true
  rw [(ht.relabelType _).sameType_iff run.unambiguous_settled (hu.relabelType _)]
  obtain ⟨hvalue, heq⟩ | ⟨hvalue, hother, heq⟩ := run.build_relabelType ht <;>
    obtain ⟨hvalue', heq'⟩ | ⟨hvalue', hother', heq'⟩ := run.build_relabelType hu <;>
    rw [heq, heq']
  · simp [hvalue, hvalue']
  -- a leaf that stays as it is was no value before, and is none now
  · exact iff_of_false (fun h => hother' (h ▸ rfl)) fun h => hvalue' h.2.2
  · exact iff_of_false (fun h => hother (h ▸ rfl)) fun h => hvalue h.2.1
  -- two of them are told apart by what they were built of
  · exact iff_of_false hbuild fun h => hvalue h.2.1

/-- Types that lead to models of the result stay different. -/
lemma sameType_relabelType_of_kept (hne : t.sameType u = false) (hkept : t.lost? api = none)
    (hkept' : u.lost? api = none) :
    (relabelType (parts.settled document config).registry.className? t).sameType
        (relabelType (parts.settled document config).registry.className? u) = false := by
  rw [← Bool.not_eq_true, (ht.relabelType _).sameType_iff run.unambiguous_settled
    (hu.relabelType _), (run.degrades ht).build_of_kept hkept,
    (run.degrades hu).build_of_kept hkept', ← ht.sameType_iff run.unambiguous_parts hu,
    hne]
  exact Bool.false_ne_true

end

end ApiDocument.Run

/-! ## Unions in a result -/

/-- **What becomes of a union** until it is in a result. -/
structure UnionOf.Follows (api : TypedApi) (before after : UnionDescriptor) : Prop where
  /-- The variants are there and counted, and none of them is a union. -/
  variantCount_eq : after.variantCount = after.variants.length
  flat : ∀ v ∈ after.variants, v.union = none
  types_degrade : List.Forall₂ (TypeDescriptor.Degrades api) before.types after.types
  /-- They differed when the union was made. -/
  distinct : before.Distinct
  /-- Two of them have come to be the same just when both are that of any value, in the same
  containers. -/
  sameType_iff : (before.types.zip after.types).Pairwise fun t u =>
    t.2.sameType u.2 = true ↔
      t.1.nesting = u.1.nesting ∧ t.1.AnyValue api ∧ u.1.AnyValue api
  /-- So they still differ when none of them leads to a model that was left out. -/
  distinct_of_kept : (∀ t ∈ before.types, t.lost? api = none) → after.Distinct

/-- The unions in the model of a key. -/
def ResolvedDocument.unionsOf (parts : ResolvedDocument) (key : String) : List UnionDescriptor :=
  (parts.registry.get? key).elim [] (·.unions)

namespace ApiDocument.Run

variable [Spelling] {document : ApiDocument} {config : Config} {parts : ResolvedDocument}
  {api : TypedApi} {statistics : Statistics} {key : String} {m : ModelDescriptor}

/-- Before names are settled all unions are as they were made. -/
lemma unions_flattened (run : document.Run config parts api statistics)
    (hm : parts.registry.get? key = some m) :
    ∀ u ∈ m.unions, u.Flattened := by
  obtain ⟨spec, hspec, -⟩ := run.exists_spec hm
  obtain ⟨made, _, _, hmade, ⟨-, -, rfl⟩ | ⟨schema, ps, -, hps, rfl⟩⟩ :=
    run.parts_cases hspec hm
  · exact hmade.flattened
  · intro u hu
    rcases List.mem_append.1 hu with hu | hu
    · exact hmade.flattened u (List.mem_append_left _ hu)
    · obtain ⟨p, hp, hu⟩ := List.mem_flatMap.1 hu
      exact Scope.plainProperties_flattened hps p hp u (Option.mem_toList.1 hu)

lemma follows (run : document.Run config parts api statistics)
    {before left : UnionDescriptor} (hbefore : before.Flattened)
    (hcurrent : ∀ t ∈ before.types, t.Current parts.registry.className?)
    (hcontent : left.content = before.content) :
    before.Follows api
      (left.mapTypes (relabelType (parts.settled document config).registry.className?)) := by
  obtain ⟨hvariants, hcount⟩ := Prod.mk.inj hcontent
  -- settling may have moved names, but the variants have the types that they were made with
  have htypes : left.types = before.types := by
    simpa [UnionOf.types, Function.comp_def] using congrArg (List.map Prod.fst) hvariants
  have hunions : left.variants.map (·.union) = before.variants.map (·.union) := by
    simpa [Function.comp_def] using congrArg (List.map Prod.snd) hvariants
  have hlength : left.variants.length = before.variants.length := by
    simpa using congrArg List.length hvariants
  have hafter : (left.mapTypes
      (relabelType (parts.settled document config).registry.className?)).types =
        before.types.map (relabelType (parts.settled document config).registry.className?) := by
    rw [← htypes]
    simp [UnionOf.types, UnionOf.mapTypes, PropertyDescriptor.type_mapTypes]
  constructor
  case variantCount_eq => simp [UnionOf.mapTypes, hcount, hbefore.variantCount_eq, hlength]
  case flat =>
    have hflat : ∀ x ∈ left.variants.map (·.union), x = none := by
      rw [hunions]
      exact List.forall_mem_map.2 hbefore.flat
    refine List.forall_mem_map.2 fun v hv => ?_
    rw [PropertyDescriptor.mapTypes_eq, List.forall_mem_map.1 hflat v hv]
    rfl
  case types_degrade =>
    rw [hafter]
    exact run.forall₂_degrades hcurrent
  case distinct => exact hbefore.distinct
  case sameType_iff =>
    rw [hafter, ← List.map_prod_left_eq_zip, List.pairwise_map]
    exact hbefore.distinct.imp_of_mem fun ht hu hne =>
      run.sameType_relabelType_iff (hcurrent _ ht) (hcurrent _ hu) hne
  case distinct_of_kept =>
    intro hkept
    rw [UnionOf.Distinct, hafter, List.pairwise_map]
    exact hbefore.distinct.imp_of_mem fun ht hu hne =>
      run.sameType_relabelType_of_kept (hcurrent _ ht) (hcurrent _ hu) hne (hkept _ ht) (hkept _ hu)

lemma forall₂_follows (run : document.Run config parts api statistics)
    {e : String × ModelDescriptor} (he : e ∈ api.models) :
    List.Forall₂ (UnionOf.Follows api) (parts.unionsOf e.2.key) e.2.unions := by
  obtain ⟨left, m, -, -, -, heq, hm, -, -, hstable⟩ := run.exists_source he
  have hmodel := Members.mem_of_get? hm
  have hviews := hstable _ ModelDescriptor.stable_unions
  rw [← List.forall₂_eq_eq_eq, List.forall₂_map_left_iff, List.forall₂_map_right_iff] at hviews
  rw [ResolvedDocument.unionsOf, hm, heq, ModelDescriptor.unions_finished]
  refine List.forall₂_map_right_iff.2 ?_
  refine ((List.forall₂_and_left _ _).2 ⟨fun _ hu => hu, hviews.flip⟩).imp ?_
  rintro before left ⟨hbefore, hcontent⟩
  exact run.follows (run.unions_flattened hm before hbefore)
    (fun t ht => run.models_current _ hmodel t (ModelDescriptor.mem_types_of_mem_unions hbefore ht))
    hcontent

/-- The bodies of operations are described by their types alone, never by a union. -/
lemma body_union (run : document.Run config parts api statistics) :
    ∀ o ∈ api.operations, ∀ b ∈ o.body, b.union = none := by
  intro o ho b hb
  obtain ⟨scope, operationId, spec, made, hmade, rfl⟩ := run.exists_body ho hb
  obtain ⟨type, -, hmade⟩ := gives_bind.1 hmade
  rw [PropertyDescriptor.mapTypes_eq, ← gives_pure.1 hmade]
  rfl

end ApiDocument.Run

/-- **The unions of a result follow those that were made.**  Their variants are counted, but only
those are sure to differ that lead to models of the result: of the others those come to be the same
that have the same containers around the type of any value. -/
theorem unions_follow [Spelling] {document : ApiDocument} {config : Config} {api : TypedApi}
    {statistics : Statistics} (h : document.resolve config = .ok (api, statistics)) :
    ∃ parts, Gives (document.resolveParts config) parts ∧
      (∀ e ∈ api.models,
        List.Forall₂ (UnionOf.Follows api) (parts.unionsOf e.2.key) e.2.unions) ∧
      ∀ o ∈ api.operations, ∀ b ∈ o.body, b.union = none := by
  obtain ⟨parts, run⟩ := ApiDocument.exists_run h
  exact ⟨parts, run.parts_given, fun _ he => run.forall₂_follows he, run.body_union⟩

/-- A document with a union of two unions that no operation has a name for. -/
def ApiDocument.namelessVariants : ApiDocument :=
  { title := "Pets"
    version := "1"
    models :=
      [("kind", { schema := ⟨.union .oneOf [⟨.reference "cat_kind", []⟩,
          ⟨.reference "dog_kind", []⟩], []⟩ }),
        ("cat_kind", { schema := ⟨.union .oneOf [⟨.scalar { kind := .string }, []⟩,
          ⟨.scalar { kind := .boolean }, []⟩], []⟩, origin := .inlineResponse }),
        ("dog_kind", { schema := ⟨.union .oneOf [⟨.scalar { kind := .string }, []⟩,
          ⟨.scalar { kind := .integer }, []⟩], []⟩, origin := .inlineResponse })]
    operations :=
      [{ path := "/kinds"
         method := "get"
         responses := [("200", { schema := some ⟨.reference "kind", []⟩ })] }] }

lemma ApiDocument.exists_result_namelessVariants : ∃ api statistics,
    namelessVariants.resolve {} = .ok (api, statistics) ∧
      api.models.map (fun e => (e.1, e.2.unions.map fun u =>
        (u.types.map (·.canonicalName), u.variantCount))) =
          [("Kind", [(["Value", "Value"], 2)])] :=
  exists_result_of (by decide +kernel)

theorem namelessVariants_unions_follow : ∃ api statistics,
    ApiDocument.namelessVariants.resolve {} = .ok (api, statistics) ∧
      ∃ parts, Gives (ApiDocument.namelessVariants.resolveParts {}) parts ∧
        ∃ e ∈ api.models, e.1 = "Kind" ∧ e.2.unions ≠ [] ∧
          List.Forall₂ (UnionOf.Follows api) (parts.unionsOf e.2.key) e.2.unions := by
  obtain ⟨api, statistics, h, hunions⟩ := ApiDocument.exists_result_namelessVariants
  obtain ⟨parts, hparts, hfollow, -⟩ :=
    unions_follow h
  obtain ⟨e, hmodels, heq⟩ := List.map_eq_singleton_iff.1 hunions
  obtain ⟨hname, hunions⟩ := Prod.mk.inj heq
  have he : e ∈ api.models := hmodels ▸ List.mem_singleton_self e
  refine ⟨api, statistics, h, parts, hparts, e, he, hname, ?_, hfollow e he⟩
  intro hnone
  rw [hnone] at hunions
  cases hunions

/-- Both variants are of any value in the end. -/
theorem not_distinct_namelessVariants : ∃ api statistics,
    ApiDocument.namelessVariants.resolve {} = .ok (api, statistics) ∧
      ∃ e ∈ api.models, ∃ u ∈ e.2.unions, ¬ u.Distinct := by
  obtain ⟨api, statistics, h, hunions⟩ := ApiDocument.exists_result_namelessVariants
  obtain ⟨e, hmodels, heq⟩ := List.map_eq_singleton_iff.1 hunions
  obtain ⟨u, hu, heq⟩ := List.map_eq_singleton_iff.1 (Prod.mk.inj heq).2
  refine ⟨api, statistics, h, e,
    hmodels ▸ List.mem_singleton_self e, u, hu ▸ List.mem_singleton_self u, ?_⟩
  rw [UnionOf.distinct_iff, (Prod.mk.inj heq).1]
  decide

end ApiTypes
