import ApiTypes.Proofs.Run
import ApiTypes.Text.Latin

/-!
# Whose properties a model has

The properties of map-like objects are remembered by name, and a name is the key of a model or the
location of a property.  One and the same text can be both, and then a model gets the properties of
an object that it has nothing to do with.

* `ApiDocument.mapLikes` — the map-like objects of a document, in the order in which they are met.
* `Remembered` — what is remembered after some of them were met; `Remembered.rel_of_none` — that is
  the first one of each name.
* `Run.parts_cases` — a model before names are settled has the properties of its own schema, or of
  the first map-like object met under its key.
* `ModelSpec.Content` — the content of a model comes from its own schema.
* `content_iff` — **when it does**: the first object met under its key is its own, or looks the
  same.  `not_content_lentLabels` — a document where it does not.
-/

namespace ApiTypes

open Resolving

/-! ## What a schema declares -/

/-- The names of properties, and whether they are required. -/
def outline (ps : List PropertyDescriptor) : List (String × Bool) :=
  ps.map fun p => (p.baseName, p.required)

/-- The names that an object declares, and whether it requires them. -/
def ObjectOf.outline {Node : Type} (schema : ObjectOf Node) : List (String × Bool) :=
  schema.properties.map fun e => (e.1, decide (e.1 ∈ schema.required))

namespace ModelSpec

/-- What a model declares; only objects declare properties. -/
def outline (spec : ModelSpec) : List (String × Bool) :=
  match spec.schema.shape with
  | .object schema => schema.outline
  | _ => []

/-- A model that allows any property beside the ones that it declares, and declares some. -/
def MapLike (spec : ModelSpec) : Prop :=
  ∃ schema, spec.schema.shape = .object schema ∧ schema.additional = some (.any true) ∧
    schema.properties ≠ []

/-- **A model with the content of its own schema**: it counts as map-like when the schema is, and
has the properties that the schema declares. -/
structure Content (spec : ModelSpec) (m : ModelDescriptor) : Prop where
  mapLike_iff : ModelFlag.mapLike ∈ m.flags ↔ spec.MapLike
  outline_eq : ApiTypes.outline m.properties = spec.outline

/-- The map-like objects of a model by the names they are remembered under: the model itself, under
its key, or those among its properties, under their locations. -/
def mapLikes (key : String) (spec : ModelSpec) : List (String × ObjectSchema) :=
  match spec.schema.shape with
  | .object schema =>
    if schema.isMapLike then [(key, schema)]
    else schema.properties.filterMap fun e =>
      e.2.mapLike?.map fun inner => (propertyLocation key e.1, inner)
  | _ => []

end ModelSpec

/-- The map-like objects of a document in the order in which they are met. -/
def ApiDocument.mapLikes (document : ApiDocument) : List (String × ObjectSchema) :=
  document.models.flatMap fun e => e.2.mapLikes e.1

lemma isMapLike_iff {schema : ObjectSchema} : schema.isMapLike = true ↔
    schema.additional = some (.any true) ∧ schema.properties ≠ [] := by
  rw [ObjectOf.isMapLike]
  split
  · rename_i hadditional
    simp [hadditional]
  · rename_i hadditional
    simp only [Bool.false_eq_true, false_iff, not_and]
    exact fun heq => (hadditional heq).elim

lemma mapLike_iff {spec : ModelSpec} {schema : ObjectSchema}
    (h : spec.schema.shape = .object schema) : spec.MapLike ↔ schema.isMapLike = true := by
  rw [isMapLike_iff]
  constructor
  · rintro ⟨schema', h', hmapLike⟩
    rw [h] at h'
    injection h' with h'
    exact h' ▸ hmapLike
  · exact fun hmapLike => ⟨schema, h, hmapLike⟩

/-- A map-like model is met under its key. -/
lemma mem_names_mapLikes {document : ApiDocument} {key : String} {spec : ModelSpec}
    (hspec : (key, spec) ∈ document.models) (hmapLike : spec.MapLike) :
    key ∈ Members.names document.mapLikes := by
  obtain ⟨schema, hshape, hschema⟩ := hmapLike
  refine Members.mem_names.2 ⟨schema, List.mem_flatMap.2 ⟨(key, spec), hspec, ?_⟩⟩
  simp [ModelSpec.mapLikes, hshape, isMapLike_iff.2 hschema]

/-! ## What is remembered -/

/-- What is remembered after some map-like objects were met in order. -/
inductive Remembered [Spelling] (scope : Scope) :
    List (String × ObjectSchema) → MapLikeMemo → MapLikeMemo → Prop where
  | nil (memo : MapLikeMemo) : Remembered scope [] memo memo
  | cons {name : String} {schema : ObjectSchema} {objects : List (String × ObjectSchema)}
      {memo between memo' : MapLikeMemo}
      (h : Gives (scope.rememberMapLike memo name schema) between)
      (rest : Remembered scope objects between memo') :
      Remembered scope ((name, schema) :: objects) memo memo'

namespace Remembered

variable [Spelling] {scope : Scope} {objects more : List (String × ObjectSchema)}
  {memo between memo' : MapLikeMemo} {k : String}

lemma append (h : Remembered scope objects memo between)
    (hmore : Remembered scope more between memo') :
    Remembered scope (objects ++ more) memo memo' := by
  induction h with
  | nil memo => exact hmore
  | cons h rest ih => exact .cons h (ih hmore)

/-- What is remembered stays. -/
lemma get?_of_some (h : Remembered scope objects memo memo') {ps : List PropertyDescriptor}
    (hk : Members.get? memo k = some ps) : Members.get? memo' k = some ps := by
  induction h with
  | nil memo => exact hk
  | cons h rest ih =>
    refine ih ?_
    obtain ⟨-, rfl⟩ | ⟨-, ps', -, rfl⟩ := Scope.rememberMapLike_cases h
    · exact hk
    · rw [Members.get?_append, hk]
      rfl

/-- **The first object of a name is remembered**, with the properties that it declares. -/
lemma rel_of_none (h : Remembered scope objects memo memo') (hk : Members.get? memo k = none) :
    Option.Rel (fun schema ps => Gives (scope.plainProperties (.anonymous k) schema) ps)
      (Members.get? objects k) (Members.get? memo' k) := by
  induction h with
  | nil memo =>
    rw [hk]
    exact .none
  | @cons name schema objects memo between memo' h rest ih =>
    rw [Members.get?_cons]
    obtain ⟨hname, rfl⟩ | ⟨hname, ps, hps, rfl⟩ := Scope.rememberMapLike_cases h
    · have hne : name ≠ k := by
        rintro rfl
        exact Members.get?_eq_none.1 hk hname
      rw [if_neg hne]
      exact ih hk
    · by_cases hne : name = k
      · subst hne
        have hfound : Members.get? (memo ++ [(name, ps)]) name = some ps := by
          simp [Members.get?_append, hk, Members.get?_cons]
        rw [if_pos rfl, rest.get?_of_some hfound]
        exact .some hps
      · rw [if_neg hne]
        refine ih ?_
        rw [Members.get?_append, hk, Members.get?_cons, if_neg hne]
        rfl

end Remembered

namespace Scope

variable [Spelling] {scope : Scope} {memo memo' : MapLikeMemo}

lemma outline_plainProperties {owner : Owner} {schema : ObjectSchema} {ps : List PropertyDescriptor}
    (h : Gives (scope.plainProperties owner schema) ps) : outline ps = schema.outline := by
  refine map_eq_of_gives_mapM h fun e p hp => ?_
  obtain ⟨facts, -, hp⟩ := gives_bind.1 hp
  rw [← gives_pure.1 hp]
  simp [PropertyFacts.property, ObjectOf.isRequired]

/-- Along the properties of a model the map-like ones are met. -/
lemma remembered_of_properties {owner : Owner} {required : String → Bool}
    {declared : List (String × SchemaNode)} {ps : List PropertyDescriptor}
    (h : Gives (scope.properties owner required declared memo) (ps, memo')) :
    outline ps = declared.map (fun e => (e.1, required e.1)) ∧
      Remembered scope (declared.filterMap fun e =>
        e.2.mapLike?.map fun inner => (propertyLocation owner.location e.1, inner)) memo memo' := by
  induction declared generalizing memo ps with
  | nil =>
    simp only [properties, gives_pure, Prod.mk.injEq] at h
    obtain ⟨rfl, rfl⟩ := h
    exact ⟨rfl, .nil memo⟩
  | cons e rest ih =>
    obtain ⟨p, between, ps', hp, hps, rfl⟩ := properties_cons h
    obtain ⟨houtline, hremembered⟩ := ih hps
    obtain ⟨schema, hnode, hmemo, rfl⟩ | ⟨hnode, rfl, facts, -, rfl⟩ := property_cases hp
    · refine ⟨congrArg (List.cons _) houtline, ?_⟩
      rw [List.filterMap_cons_some (by rw [hnode]; rfl)]
      exact .cons hmemo hremembered
    · refine ⟨congrArg (List.cons _) houtline, ?_⟩
      rw [List.filterMap_cons_none (by rw [hnode]; rfl)]
      exact hremembered

namespace Modelled

variable {key : String} {spec : ModelSpec} {m : ModelDescriptor}

/-- Making a model meets its map-like objects. -/
lemma remembered (h : Modelled scope key spec memo m memo') :
    Remembered scope (spec.mapLikes key) memo memo' := by
  rw [ModelSpec.mapLikes]
  cases h with
  | mapLike hname hshape hmapLike hmemo =>
    simp only [hshape, hmapLike, if_true]
    exact .cons hmemo (.nil _)
  | record hname hshape hmapLike hps =>
    simp only [hshape, hmapLike]
    exact (remembered_of_properties hps).2
  | union hname hshape hunion =>
    simp only [hshape]
    exact .nil memo
  | enum hname hshape htype =>
    simp only [hshape]
    exact .nil memo
  | synonym hname hshape hunion htype =>
    split
    · rename_i schema hobject
      have hempty := hshape schema hobject
      have hmapLike : schema.isMapLike = false := by
        rw [← Bool.not_eq_true, isMapLike_iff]
        exact fun h => h.2 hempty
      simp only [hmapLike, hempty, List.filterMap_nil]
      exact .nil memo
    · exact .nil memo

/-- A model that is no map-like object has the properties that its schema declares from the start,
and does not count as map-like. -/
lemma content_of_not_mapLike (h : Modelled scope key spec memo m memo') (hspec : ¬ spec.MapLike) :
    spec.Content m := by
  cases h with
  | mapLike hname hshape hmapLike hmemo => exact (hspec ((mapLike_iff hshape).2 hmapLike)).elim
  | record hname hshape hmapLike hps =>
    refine ⟨by simp [hspec], ?_⟩
    rw [(remembered_of_properties hps).1, ModelSpec.outline, hshape]
    simp [ObjectOf.outline, ObjectOf.isRequired]
  | union hname hshape hunion =>
    exact ⟨by simp [hspec], by simp [outline, ModelSpec.outline, hshape]⟩
  | enum hname hshape htype => exact ⟨by simp [hspec], by simp [outline, ModelSpec.outline, hshape]⟩
  | synonym hname hshape hunion htype =>
    refine ⟨by simp [hspec], ?_⟩
    rw [ModelSpec.outline]
    split
    · rename_i schema hobject
      rw [ObjectOf.outline, hshape schema hobject]
      rfl
    · rfl

end Modelled

lemma remembered_of_models {specs : List (String × ModelSpec)} {ms : List ModelDescriptor}
    (h : Gives (scope.models specs memo) (ms, memo')) :
    Remembered scope (specs.flatMap fun e => e.2.mapLikes e.1) memo memo' := by
  induction specs generalizing memo ms with
  | nil =>
    simp only [models, gives_pure, Prod.mk.injEq] at h
    exact h.2 ▸ .nil memo
  | cons e rest ih =>
    obtain ⟨m, between, ms', hm, hms, rfl⟩ := models_cons h
    exact hm.remembered.append (ih hms)

end Scope

/-! ## What later steps see of the content -/

namespace ModelDescriptor

/-- What is seen of the content of a model: whether it counts as map-like, and its properties. -/
def content (m : ModelDescriptor) : Bool × List (String × Bool) :=
  (decide (ModelFlag.mapLike ∈ m.flags), outline m.properties)

lemma stable_content : Stable content where
  titled _ _ := rfl
  renamedFrom previous m := by
    simp [content, renamedFrom, rebase, PropertyDescriptor.rebase, outline, ModelFlags.mem_set]
  asBody m := by simp [content, asBody, ModelFlags.mem_set]

lemma content_finished (classNames : String → Option String) (m : ModelDescriptor) :
    (m.finished classNames).content = m.content := by
  have hproperty : ∀ p : PropertyDescriptor, (p.mapTypes (relabelType classNames)).baseName =
      p.baseName ∧ (p.mapTypes (relabelType classNames)).required = p.required := by
    rintro ⟨_, _, _, _, _, _, _ | ⟨_, _, _⟩, _⟩ <;> exact ⟨rfl, rfl⟩
  simp [content, finished, withFacts, relabel, mapTypes, outline, PropertyDescriptor.withFacts,
    hproperty]

end ModelDescriptor

lemma ModelSpec.content_congr {spec : ModelSpec} {m m' : ModelDescriptor}
    (h : m.content = m'.content) : spec.Content m ↔ spec.Content m' := by
  obtain ⟨hflag, houtline⟩ := Prod.mk.inj h
  rw [decide_eq_decide] at hflag
  constructor
  · rintro ⟨hmapLike, heq⟩
    exact ⟨hflag.symm.trans hmapLike, houtline.symm.trans heq⟩
  · rintro ⟨hmapLike, heq⟩
    exact ⟨hflag.trans hmapLike, houtline.trans heq⟩

namespace ApiDocument.Run

variable [Spelling] {document : ApiDocument} {config : Config} {parts : ResolvedDocument}
  {api : TypedApi} {statistics : Statistics}

/-- **A model before names are settled** is what its own schema makes of it, when no map-like object
was met under its key.  Otherwise it has the properties of the first such object, and counts as
map-like itself. -/
lemma parts_cases (run : document.Run config parts api statistics)
    {key : String} {spec : ModelSpec} {m : ModelDescriptor}
    (hspec : (key, spec) ∈ document.models) (hm : parts.registry.get? key = some m) :
    ∃ made before after,
      Scope.Modelled ⟨(Registry.ofDocument document).1, config⟩ key spec before made after ∧
      ((Members.get? document.mapLikes key = none ∧ ¬ spec.MapLike ∧ m = made) ∨
        ∃ schema properties, Members.get? document.mapLikes key = some schema ∧
          Gives (Scope.plainProperties ⟨(Registry.ofDocument document).1, config⟩ (.anonymous key)
            schema) properties ∧
          m = { made with
            properties := properties, flags := ModelFlags.set made.flags .mapLike }) := by
  obtain ⟨models, memo, hmodels, heq, -⟩ := run.exists_models
  obtain ⟨made, before, after, hmade, hget⟩ := exists_modelled hmodels hspec
  have hrel : Option.Rel (fun schema properties => Gives (Scope.plainProperties
      ⟨(Registry.ofDocument document).1, config⟩ (.anonymous key) schema) properties)
        (Members.get? document.mapLikes key) (Members.get? memo key) :=
    (Scope.remembered_of_models hmodels).rel_of_none rfl
  rw [← heq, hm, ModelDescriptor.withMapLike] at hget
  refine ⟨made, before, after, hmade, ?_⟩
  generalize hfirst : Members.get? document.mapLikes key = first at hrel
  generalize Members.get? memo key = remembered at hrel hget
  cases hrel with
  | none =>
    -- nothing was met under this key, so neither was the model itself
    exact Or.inl ⟨rfl, fun hmapLike => Members.get?_eq_none.1 hfirst
      (mem_names_mapLikes hspec hmapLike), Option.some.inj hget⟩
  | some hps => exact Or.inr ⟨_, _, rfl, hps, Option.some.inj hget⟩

/-- **The content of a model before names are settled**: it comes from the first map-like object
that was met under its key, if there is one, and from its own schema otherwise. -/
lemma content_parts (run : document.Run config parts api statistics)
    {key : String} {spec : ModelSpec} {m : ModelDescriptor}
    (hspec : (key, spec) ∈ document.models) (hm : parts.registry.get? key = some m) :
    spec.Content m ↔ ∀ schema, Members.get? document.mapLikes key = some schema →
      spec.MapLike ∧ schema.outline = spec.outline := by
  obtain ⟨made, before, after, hmade, ⟨hfirst, hplain, rfl⟩ | ⟨schema, ps, hfirst, hps, rfl⟩⟩ :=
    run.parts_cases hspec hm
  · rw [hfirst]
    exact iff_of_true (hmade.content_of_not_mapLike hplain) (by simp)
  · rw [hfirst]
    constructor
    · rintro ⟨hmapLike, houtline⟩ schema' heq
      rw [← Option.some.inj heq, ← Scope.outline_plainProperties hps]
      exact ⟨hmapLike.1 (ModelFlags.mem_set.2 (Or.inl rfl)), houtline⟩
    · intro h
      obtain ⟨hmapLike, houtline⟩ := h schema rfl
      refine ⟨iff_of_true (ModelFlags.mem_set.2 (Or.inl rfl)) hmapLike, ?_⟩
      exact (Scope.outline_plainProperties hps).trans houtline

end ApiDocument.Run

/-! ## When the content is a model's own -/

/-- **When a model has the content of its own schema.**  It does just when the first map-like object
met under its key, if there is one, belongs to a model that is map-like itself and declares what its
schema declares. -/
theorem content_iff [Spelling] {document : ApiDocument} {config : Config} {api : TypedApi}
    {statistics : Statistics} (h : document.resolve config = .ok (api, statistics)) :
    ∀ e ∈ api.models, ∃ spec, (e.2.key, spec) ∈ document.models ∧
      (spec.Content e.2 ↔ ∀ schema, Members.get? document.mapLikes e.2.key = some schema →
        spec.MapLike ∧ schema.outline = spec.outline) := by
  obtain ⟨parts, run⟩ := ApiDocument.exists_run h
  intro e he
  obtain ⟨left, m, spec, -, -, heq, hm, hspec, -, hstable⟩ := run.exists_source he
  refine ⟨spec, hspec, ?_⟩
  rw [← run.content_parts hspec hm]
  refine ModelSpec.content_congr ?_
  rw [heq, ModelDescriptor.content_finished, hstable _ ModelDescriptor.stable_content]

/-! ## A model with the properties of another object -/

/-- A document where the location of a property is the key of a model, which is a plain text. -/
def ApiDocument.lentLabels : ApiDocument :=
  { title := "Orders"
    version := "1"
    models :=
      [("order", { schema := ⟨.object { properties := [("labels", ⟨.object
          { properties := [("color", ⟨.scalar { kind := .string }, []⟩)]
            additional := some (.any true) }, []⟩)] }, []⟩ }),
        ("order.labels", { schema := ⟨.scalar { kind := .string }, []⟩ })] }

lemma ApiDocument.exists_result_lentLabels : ∃ api statistics,
    lentLabels.resolve {} = .ok (api, statistics) ∧
      api.models.map (fun e => (e.2.key, decide (ModelFlag.mapLike ∈ e.2.flags))) =
        [("order", false), ("order.labels", true)] :=
  exists_result_of (by decide +kernel)

theorem lentLabels_content_iff : ∃ api statistics,
    ApiDocument.lentLabels.resolve {} = .ok (api, statistics) ∧
      ∀ e ∈ api.models, ∃ spec, (e.2.key, spec) ∈ ApiDocument.lentLabels.models ∧
        (spec.Content e.2 ↔
          ∀ schema, Members.get? ApiDocument.lentLabels.mapLikes e.2.key = some schema →
            spec.MapLike ∧ schema.outline = spec.outline) := by
  obtain ⟨api, statistics, h, -⟩ := ApiDocument.exists_result_lentLabels
  exact ⟨api, statistics, h, content_iff h⟩

/-- The plain text counts as map-like: it got the labels of an order. -/
theorem not_content_lentLabels : ∃ api statistics,
    ApiDocument.lentLabels.resolve {} = .ok (api, statistics) ∧
      ∃ e ∈ api.models, ∃ spec, (e.2.key, spec) ∈ ApiDocument.lentLabels.models ∧
        ¬ spec.Content e.2 := by
  obtain ⟨api, statistics, h, hflags⟩ := ApiDocument.exists_result_lentLabels
  have hmem : ("order.labels", true) ∈
      api.models.map fun e => (e.2.key, decide (ModelFlag.mapLike ∈ e.2.flags)) := by
    rw [hflags]
    exact List.mem_cons_of_mem _ List.mem_cons_self
  obtain ⟨e, he, heq⟩ := List.mem_map.1 hmem
  obtain ⟨hkey, hflag⟩ := Prod.mk.inj heq
  refine ⟨api, statistics, h, e, he, { schema := ⟨.scalar { kind := .string }, []⟩ }, ?_, ?_⟩
  · rw [hkey]
    exact List.mem_cons_of_mem _ List.mem_cons_self
  · rintro ⟨hmapLike, -⟩
    obtain ⟨schema, hshape, -⟩ := hmapLike.1 (of_decide_eq_true hflag)
    cases hshape

end ApiTypes
