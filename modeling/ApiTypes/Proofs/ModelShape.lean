import ApiTypes.Proofs.Extensions
import ApiTypes.Proofs.ModelContent
import ApiTypes.Text.Latin

/-!
# The shape of a model

What kind of model a model is follows from its own schema, and so does which of its parts are
there.  Nothing that happens to a model later changes this: neither the properties of map-like
objects, nor new class names, nor types that are made anew.

* `ModelSpec.kind` — the kind of model that a schema makes.
* `ModelSpec.Shaped` — a model of the kind of its schema, with the parts that belong to it.
* `Modelled.shaped` — it has this shape when it is made; `Shaped.withMapLike`, `Shaped.titled`,
  `Shaped.renamedFrom`, `Shaped.asBody`, `Shaped.finished` — each change of one model keeps it.
* `Registry.Shaped` — a registry whose models have the shapes of their parts of the document;
  `Shaped.applySuggestions`, `Shaped.dropUnreferenced`, `Shaped.dropMarkers` — settling keeps it.
* `models_shaped` — **the models of a result have the shapes of their schemas**, as they had all
  along.
-/

namespace ApiTypes

open Resolving

/-! ## Shapes -/

/-- The flags that say what kind of model a model is. -/
def ModelFlag.kinds : List ModelFlag :=
  [.record, .alias, .enum, .union]

namespace ModelSpec

/-- **The kind of model that a schema makes**: a union is one, a scalar with listed values is an
enum, an object with declared properties is a record, and all else is another name for a type. -/
def kind (spec : ModelSpec) : ModelFlag :=
  match spec.schema.shape with
  | .union _ _ => .union
  | .scalar schema => if schema.enumValues = [] then .alias else .enum
  | .object schema => if schema.properties = [] then .alias else .record
  | _ => .alias

/-- **A model of the kind of its schema**, of one kind only, with the parts that belong to it. -/
structure Shaped (spec : ModelSpec) (m : ModelDescriptor) : Prop where
  kind_eq : m.flags.filter (· ∈ ModelFlag.kinds) = [spec.kind]
  union_iff : m.union.isSome = true ↔ ModelFlag.union ∈ m.flags
  enum_iff : m.enumValues.isSome = true ↔ ModelFlag.enum ∈ m.flags
  type_of_alias : ModelFlag.alias ∈ m.flags → m.type.isSome = true
  type_of_enum : ModelFlag.enum ∈ m.flags → m.type.isSome = true
  type_of_union : ModelFlag.union ∈ m.flags → m.type.isSome = false
  body_iff : ModelFlag.bodyModel ∈ m.flags ↔
    m.extensions.isFlagged Extension.bodyModel.key = true
  origin_of_body : ModelFlag.bodyModel ∈ m.flags → m.origin = .requestBody
  origin_eq : m.origin = spec.origin

end ModelSpec

variable {spec : ModelSpec} {m m' : ModelDescriptor}

namespace ModelSpec.Shaped

/-! ## Changes of one model -/

lemma mem_flags_iff (h : spec.Shaped m) {flag : ModelFlag} (hflag : flag ∈ ModelFlag.kinds) :
    flag ∈ m.flags ↔ flag = spec.kind := by
  rw [← List.mem_singleton, ← h.kind_eq, List.mem_filter]
  simp [hflag]

/-- Parts may change when those that are there stay there. -/
lemma of_parts (h : spec.Shaped m) (hflags : m'.flags = m.flags)
    (hunion : m'.union.isSome = m.union.isSome)
    (henum : m'.enumValues.isSome = m.enumValues.isSome) (htype : m'.type.isSome = m.type.isSome)
    (hbody : m'.extensions.isFlagged Extension.bodyModel.key =
      m.extensions.isFlagged Extension.bodyModel.key)
    (horigin : m'.origin = m.origin) : spec.Shaped m' := by
  obtain ⟨hkind, hunionIff, henumIff, halias, henumType, hnone, hbodyIff, hof, heq⟩ := h
  exact ⟨by rw [hflags, hkind], by rw [hflags, hunion, hunionIff],
    by rw [hflags, henum, henumIff], by rwa [hflags, htype], by rwa [hflags, htype],
    by rwa [hflags, htype], by rw [hflags, hbody, hbodyIff], by rwa [hflags, horigin],
    by rw [horigin, heq]⟩

/-- A flag that says no kind leaves the one that does. -/
lemma kind_eq_set (h : spec.Shaped m) (flag : ModelFlag) (hflag : flag ∉ ModelFlag.kinds) :
    (ModelFlags.set m.flags flag).filter (· ∈ ModelFlag.kinds) = [spec.kind] := by
  have hkind : spec.kind ∈ ModelFlag.kinds := by
    have hmem := h.kind_eq ▸ List.mem_singleton_self spec.kind
    simpa using (List.mem_filter.1 hmem).2
  have hcongr : ∀ g ∈ ModelFlag.all,
      (decide (g ∈ ModelFlag.kinds) && (decide (g = flag) || m.flags.contains g)) =
        decide (g = spec.kind) := by
    intro g _
    by_cases hg : g ∈ ModelFlag.kinds
    · have hne : g ≠ flag := fun heq => hflag (heq ▸ hg)
      simp [hg, hne, h.mem_flags_iff hg]
    · have hne : g ≠ spec.kind := fun heq => hg (heq ▸ hkind)
      simp [hg, hne]
  rw [ModelFlags.set, List.filter_filter, List.filter_congr hcongr]
  cases spec.kind <;> rfl

/-- One more flag that says no kind leaves the shape, when the parts that are there stay there and
what is said of bodies is right. -/
lemma of_set (h : spec.Shaped m) (flag : ModelFlag) (hflag : flag ∉ ModelFlag.kinds)
    (hset : m'.flags = ModelFlags.set m.flags flag)
    (hunion : m'.union.isSome = m.union.isSome)
    (henum : m'.enumValues.isSome = m.enumValues.isSome) (htype : m'.type = m.type)
    (hbody : ModelFlag.bodyModel ∈ m'.flags ↔
      m'.extensions.isFlagged Extension.bodyModel.key = true)
    (hof : ModelFlag.bodyModel ∈ m'.flags → m.origin = .requestBody)
    (horigin : m'.origin = m.origin) : spec.Shaped m' := by
  have hmem : ∀ g ∈ ModelFlag.kinds, g ∈ m'.flags ↔ g ∈ m.flags := by
    intro g hg
    have hne : g ≠ flag := fun heq => hflag (heq ▸ hg)
    simp [hset, ModelFlags.mem_set, hne]
  have hunionFlag := hmem .union (by decide)
  have henumFlag := hmem .enum (by decide)
  have haliasFlag := hmem .alias (by decide)
  exact
    { kind_eq := hset ▸ h.kind_eq_set flag hflag
      union_iff := by rw [hunion, h.union_iff, hunionFlag]
      enum_iff := by rw [henum, h.enum_iff, henumFlag]
      type_of_alias := fun hg => htype ▸ h.type_of_alias (haliasFlag.1 hg)
      type_of_enum := fun hg => htype ▸ h.type_of_enum (henumFlag.1 hg)
      type_of_union := fun hg => htype ▸ h.type_of_union (hunionFlag.1 hg)
      body_iff := hbody
      origin_of_body := fun hg => horigin.trans (hof hg)
      origin_eq := horigin.trans h.origin_eq }

/-- A flag that tells neither the kind nor the body of an operation leaves the shape. -/
lemma of_other_flag (h : spec.Shaped m) (flag : ModelFlag) (hflag : flag ∉ ModelFlag.kinds)
    (hother : flag ≠ .bodyModel) (hset : m'.flags = ModelFlags.set m.flags flag)
    (hunion : m'.union.isSome = m.union.isSome)
    (henum : m'.enumValues.isSome = m.enumValues.isSome) (htype : m'.type = m.type)
    (hextensions : m'.extensions = m.extensions) (horigin : m'.origin = m.origin) :
    spec.Shaped m' := by
  have hbody : ModelFlag.bodyModel ∈ m'.flags ↔ ModelFlag.bodyModel ∈ m.flags := by
    simp [hset, ModelFlags.mem_set, hother.symm]
  refine h.of_set flag hflag hset hunion henum htype ?_ (fun hg => ?_) horigin
  · rw [hbody, hextensions, h.body_iff]
  · exact h.origin_of_body (hbody.1 hg)

/-- The properties of a map-like object leave the shape. -/
lemma withMapLike (h : spec.Shaped m) (memo : MapLikeMemo) (key : String) :
    spec.Shaped (m.withMapLike memo key) := by
  rw [ModelDescriptor.withMapLike]
  split
  · exact h.of_other_flag .mapLike (by decide) (by decide) rfl rfl rfl rfl rfl rfl
  · exact h

lemma titled (h : spec.Shaped m) (className : String) : spec.Shaped (m.titled className) :=
  h.of_parts rfl rfl rfl rfl rfl rfl

lemma renamedFrom (h : spec.Shaped m) (previous : String) :
    spec.Shaped (m.renamedFrom previous) :=
  h.of_other_flag .renamed (by decide) (by decide) rfl
    (by simp [ModelDescriptor.renamedFrom, ModelDescriptor.rebase])
    (by simp [ModelDescriptor.renamedFrom, ModelDescriptor.rebase]) rfl rfl rfl

/-- The model of a request body may come to count as the body of an operation. -/
lemma asBody (h : spec.Shaped m) (horigin : spec.origin = .requestBody) :
    spec.Shaped m.asBody :=
  h.of_set .bodyModel (by decide) rfl rfl rfl rfl
    (iff_of_true (ModelFlags.mem_set.2 (Or.inl rfl))
      (by simp [ModelDescriptor.asBody, Extensions.isFlagged_flag]))
    (fun _ => h.origin_eq.trans horigin) rfl

lemma relabel (h : spec.Shaped m) (classNames : String → Option String) :
    spec.Shaped (m.relabel classNames) :=
  h.of_parts rfl (by simp [ModelDescriptor.relabel, ModelDescriptor.mapTypes]) rfl
    (by simp [ModelDescriptor.relabel, ModelDescriptor.mapTypes]) rfl rfl

end ModelSpec.Shaped

/-! ## Facts -/

/-- The facts of a model do not say that it is a body. -/
lemma ModelDescriptor.isFlagged_bodyModel_withFacts (m : ModelDescriptor) :
    m.withFacts.extensions.isFlagged Extension.bodyModel.key =
      m.extensions.isFlagged Extension.bodyModel.key := by
  have hown : Extension.bodyModel ∉ m.ownTypeFacts :=
    m.not_mem_ownTypeFacts (by decide) (by decide)
  rw [Bool.eq_iff_iff, isFlagged_withFacts _ (by decide)]
  simp [hown]

namespace ModelSpec.Shaped

/-- **A model in a result has the shape that it had before.** -/
lemma finished (h : spec.Shaped m) (classNames : String → Option String) :
    spec.Shaped (m.finished classNames) :=
  (h.relabel classNames).of_parts rfl rfl rfl rfl
    (ModelDescriptor.isFlagged_bodyModel_withFacts _) rfl

end ModelSpec.Shaped

/-- **A model has its shape when it is made.** -/
lemma Scope.Modelled.shaped [Spelling] {scope : Scope} {key : String} {memo memo' : MapLikeMemo}
    (h : Scope.Modelled scope key spec memo m memo') : spec.Shaped m := by
  have hkind : ∀ flag ∈ ModelFlag.kinds, spec.kind = flag →
      [flag].filter (· ∈ ModelFlag.kinds) = [spec.kind] := by
    intro flag hflag heq
    simp [hflag, heq]
  cases h with
  | mapLike hname hshape hmapLike hmemo =>
    have hdeclared := (isMapLike_iff.1 hmapLike).2
    exact ⟨hkind .record (by decide) (by simp [ModelSpec.kind, hshape, hdeclared]), by simp,
      by simp, by simp, by simp, by simp, by simp [Extensions.isFlagged_nil], by simp, rfl⟩
  | record hname hshape hmapLike hps hdeclared =>
    exact ⟨hkind .record (by decide) (by simp [ModelSpec.kind, hshape, hdeclared]), by simp,
      by simp, by simp, by simp, by simp, by simp [Extensions.isFlagged_nil], by simp, rfl⟩
  | union hname hshape hunion =>
    exact ⟨hkind .union (by decide) (by simp [ModelSpec.kind, hshape]), by simp, by simp,
      by simp, by simp, by simp, by simp [Extensions.isFlagged_nil], by simp, rfl⟩
  | enum hname hshape htype hvalues =>
    exact ⟨hkind .enum (by decide) (by simp [ModelSpec.kind, hshape, hvalues]), by simp, by simp,
      by simp, by simp, by simp, by simp [Extensions.isFlagged_nil], by simp, rfl⟩
  | synonym hname hshape hunion htype hscalar =>
    refine ⟨hkind .alias (by decide) ?_, by simp, by simp, by simp, by simp, by simp,
      by simp [Extensions.isFlagged_nil], by simp, rfl⟩
    rw [ModelSpec.kind]
    split
    · rename_i hunion'
      exact absurd hunion' (hunion _ _)
    · rename_i schema hscalar'
      rw [if_pos (hscalar schema hscalar')]
    · rename_i schema hobject
      rw [if_pos (hshape schema hobject)]
    · rfl

/-! ## Registries -/

/-- **A registry whose models have the shapes of their own parts of the document.** -/
def Registry.Shaped (document : ApiDocument) (r : Registry) : Prop :=
  ∀ e ∈ r.models, ∃ spec, (e.1, spec) ∈ document.models ∧ spec.Shaped e.2

namespace Registry.Shaped

variable {document : ApiDocument} {r : Registry}

/-- A change that keeps the shape of every model keeps those of a registry. -/
lemma changeModels (h : r.Shaped document) {f : String → ModelDescriptor → ModelDescriptor}
    (hf : ∀ key spec m, (key, spec) ∈ document.models → spec.Shaped m → spec.Shaped (f key m)) :
    (r.changeModels f).Shaped document := by
  intro e he
  obtain ⟨e', he', rfl⟩ := List.mem_map.1 he
  obtain ⟨spec, hspec, hshaped⟩ := h e' he'
  exact ⟨spec, hspec, hf _ _ _ hspec hshaped⟩

lemma update (h : r.Shaped document) {key : String} {f : ModelDescriptor → ModelDescriptor}
    (hf : ∀ spec m, (key, spec) ∈ document.models → spec.Shaped m → spec.Shaped (f m)) :
    (r.update key f).Shaped document := by
  rw [update_eq]
  refine h.changeModels fun k spec m hspec hm => ?_
  split
  · rename_i hk
    exact hf spec m (hk ▸ hspec) hm
  · exact hm

end Registry.Shaped

namespace Settlement

variable {document : ApiDocument} {s : Settlement} {key : String}

lemma shaped_retitle (h : s.registry.Shaped document) (current className : String) :
    (s.retitle key current className).registry.Shaped document :=
  h.update (f := (·.titled className)) fun _ _ _ hm => hm.titled className

lemma shaped_noteRename (h : s.registry.Shaped document) (previous : String) :
    (s.noteRename key previous).registry.Shaped document :=
  h.update fun _ _ _ hm => hm.renamedFrom previous

lemma shaped_rename [Spelling] (h : s.registry.Shaped document) (desired : String) :
    (s.rename key desired).registry.Shaped document := by
  obtain ⟨-, heq⟩ | ⟨current, -, ⟨-, heq⟩ | ⟨new, -, heq⟩⟩ := s.rename_cases key desired
  · rwa [heq]
  · rwa [heq]
  · rw [heq]
    split
    · exact shaped_retitle h _ _
    · exact shaped_noteRename (shaped_retitle h _ _) _

/-- A model that is left out takes its own shape with it only. -/
lemma shaped_drop (h : s.registry.Shaped document) : (s.drop key).registry.Shaped document := by
  intro e he
  rw [models_drop] at he
  exact h e (List.mem_of_mem_filter he)

lemma shaped_carryOut [Spelling] (h : s.registry.Shaped document) {ruling : Ruling}
    (hbody : ∀ desired, ruling = .renameBody desired →
      ∀ spec, (key, spec) ∈ document.models → spec.origin = .requestBody) :
    (s.carryOut key ruling).registry.Shaped document := by
  cases ruling with
  | keep => exact h
  | rename desired => exact shaped_rename h desired
  | renameBody desired =>
    exact (shaped_rename h desired).update fun spec _ hspec hm =>
      hm.asBody (hbody desired rfl spec hspec)
  | drop => exact shaped_drop h

/-- Only bodies come to count as the bodies of operations. -/
lemma origin_of_renameBody [Spelling] {suggestions : Suggestions} {origin : Origin} {isUnion : Bool}
    {desired : String} (h : suggestions.ruling key origin isUnion = .renameBody desired) :
    origin = .requestBody := by
  cases hforced : suggestions.isForced key with
  | true =>
    simp only [Suggestions.ruling, hforced, if_true] at h
    split at h <;> cases h
  | false =>
    simp only [Suggestions.ruling, hforced, Bool.false_eq_true, if_false] at h
    split at h
    · rfl
    · cases h
    all_goals first | cases h | (split at h <;> cases h)

lemma shaped_applySuggestions [Spelling] (h : s.registry.Shaped document)
    (suggestions : Suggestions) : (s.applySuggestions suggestions).registry.Shaped document := by
  refine List.foldlRecOn s.registry.models _
    (motive := fun t : Settlement => t.registry.Shaped document) h ?_
  intro t ht e he
  refine shaped_carryOut ht fun desired hruling spec hspec => ?_
  obtain ⟨spec', hspec', hshaped⟩ := h e he
  obtain rfl : spec = spec' :=
    congrArg Prod.snd (List.inj_on_of_nodup_map document.nodup_keys hspec hspec' rfl)
  rw [← hshaped.origin_eq]
  exact origin_of_renameBody hruling

lemma shaped_dropUnreferenced (hs : s.registry.Consistent) (h : s.registry.Shaped document)
    (fromOperations : List String) :
    (s.dropUnreferenced fromOperations).registry.Shaped document :=
  dropUnreferenced_induction (P := fun t => t.registry.Shaped document)
    (fun _ _ _ _ ht _ _ => shaped_drop ht) hs h

variable [Spelling]

lemma shaped_dropMarker (h : s.registry.Shaped document) :
    (s.dropMarker key).registry.Shaped document := by
  obtain heq | ⟨current, rest, -, -, ⟨-, heq⟩ | ⟨-, heq⟩⟩ := s.dropMarker_cases key
  · rwa [heq]
  · rw [heq]
    exact shaped_noteRename h _
  · rw [heq]
    exact shaped_noteRename (shaped_retitle h _ _) _

lemma shaped_dropMarkers (h : s.registry.Shaped document) :
    s.dropMarkers.registry.Shaped document := by
  refine List.foldlRecOn s.registry.models _
    (motive := fun t : Settlement => t.registry.Shaped document) h ?_
  rintro t ht ⟨key, m⟩ -
  dsimp only
  split
  · exact shaped_dropMarker ht
  · exact ht

end Settlement

/-! ## Results -/

namespace ApiDocument.Run

variable [Spelling] {document : ApiDocument} {config : Config} {parts : ResolvedDocument}
  {api : TypedApi} {statistics : Statistics}

/-- The models have their shapes before any map-like object lends its properties. -/
lemma installed_shaped {models : List ModelDescriptor} {memo : MapLikeMemo}
    (hmodels : Gives (Scope.models ⟨(Registry.ofDocument document).1, config⟩ document.models [])
      (models, memo)) :
    (models.foldl Registry.install (Registry.ofDocument document).1).Shaped document := by
  have hconsistent :
      (models.foldl Registry.install (Registry.ofDocument document).1).Consistent :=
    Registry.installAll_consistent Registry.ofDocument_consistent
  rintro ⟨key, m⟩ he
  have hkey : key ∈ Members.names document.models := by
    have hview := Registry.mem_view (fun m => (m.className, m.origin)) he
    rw [← Registry.titles, Registry.titles_installAll] at hview
    rw [← Registry.mem_keys_ofDocument,
      ← Registry.names_view fun m : ModelDescriptor => (m.className, m.origin)]
    exact Members.mem_names_of_mem hview
  obtain ⟨spec, hspec⟩ := Members.mem_names.1 hkey
  obtain ⟨made, before, after, hmade, hget⟩ := exists_installed hmodels hspec
  rw [hconsistent.get?_eq_some.2 he] at hget
  exact ⟨spec, hspec, Option.some.inj hget ▸ hmade.shaped⟩

lemma parts_shaped (run : document.Run config parts api statistics) :
    parts.registry.Shaped document := by
  obtain ⟨models, memo, hmodels, heq, -⟩ := run.exists_models
  rw [heq, Registry.withMapLike_eq]
  exact (installed_shaped hmodels).changeModels fun key _ _ _ hm =>
    hm.withMapLike memo key

lemma named_shaped (run : document.Run config parts api statistics) :
    (parts.named document config).registry.Shaped document :=
  Settlement.shaped_applySuggestions (s := ⟨parts.registry, 0, 0, []⟩) run.parts_shaped _

lemma needed_shaped (run : document.Run config parts api statistics) :
    (parts.needed document config).registry.Shaped document :=
  Settlement.shaped_dropUnreferenced run.named_consistent run.named_shaped _

lemma settled_shaped (run : document.Run config parts api statistics) :
    (parts.settled document config).registry.Shaped document :=
  Settlement.shaped_dropMarkers run.needed_shaped

end ApiDocument.Run

/-- The registries that a run goes through: with the properties of map-like objects, after
suggested names were taken, after lifted unions were left out, after they lost their markers, and
after the names of types were made anew. -/
def ResolvedDocument.stages [Spelling] (parts : ResolvedDocument) (document : ApiDocument)
    (config : Config) : List Registry :=
  [parts.registry, (parts.named document config).registry,
    (parts.needed document config).registry, (parts.settled document config).registry,
    (parts.settled document config).registry.relabel]

/-- **The models of a result have the shapes of their own schemas**, and so they had at each stage
of the run from the moment that they were made. -/
theorem models_shaped [Spelling] {document : ApiDocument} {config : Config} {api : TypedApi}
    {statistics : Statistics}
    (h : document.resolve config = .ok (api, statistics)) : ∃ models memo parts,
    Gives (Scope.models ⟨(Registry.ofDocument document).1, config⟩ document.models [])
      (models, memo) ∧
    (models.foldl Registry.install (Registry.ofDocument document).1).Shaped document ∧
    parts.registry =
      (models.foldl Registry.install (Registry.ofDocument document).1).withMapLike memo ∧
    Gives (document.resolveParts config) parts ∧
    (∀ r ∈ parts.stages document config, r.Shaped document) ∧
    ∀ e ∈ api.models, ∃ spec, (e.2.key, spec) ∈ document.models ∧ spec.Shaped e.2 := by
  obtain ⟨parts, run⟩ := ApiDocument.exists_run h
  obtain ⟨models, memo, hmodels, hregistry, -⟩ := run.exists_models
  have hsettled := run.settled_shaped
  refine ⟨models, memo, parts, hmodels, ApiDocument.Run.installed_shaped hmodels,
    hregistry, run.parts_given, ?_, ?_⟩
  · simp only [ResolvedDocument.stages, List.forall_mem_cons, List.not_mem_nil, false_imp_iff,
      implies_true, and_true]
    exact ⟨run.parts_shaped, run.named_shaped, run.needed_shaped,
      hsettled, hsettled.changeModels fun _ _ _ _ hm => hm.relabel _⟩
  · intro e he
    rw [run.models_eq] at he
    obtain ⟨⟨key, left⟩, hleft, rfl⟩ := List.mem_map.1 he
    obtain rfl : left.key = key := run.settled_consistent.key_eq _ hleft
    obtain ⟨spec, hspec, hshaped⟩ := hsettled _ hleft
    exact ⟨spec, hspec, hshaped.finished _⟩

/-- A document with a model of each kind, of which the body is called after its operation. -/
def ApiDocument.everyKind : ApiDocument :=
  { title := "Issues"
    version := "1"
    models :=
      [("tag", { schema := ⟨.scalar { kind := .string }, []⟩ }),
        ("state", { schema :=
          ⟨.scalar { kind := .string, enumValues := [.string "open", .string "done"] }, []⟩ }),
        ("options", { schema := ⟨.object
          { properties := [("depth", ⟨.scalar { kind := .integer }, []⟩)]
            additional := some (.any true) }, []⟩ }),
        ("OneOfTagState", { schema := ⟨.union .oneOf [⟨.reference "tag", []⟩,
          ⟨.reference "state", []⟩], []⟩, origin := .composed }),
        ("issues_post_body", { schema := ⟨.object { properties :=
          [("state", ⟨.reference "state", []⟩)] }, []⟩, origin := .requestBody })]
    operations :=
      [{ path := "/issues"
         method := "post"
         requestBody := some { schema := ⟨.reference "issues_post_body", []⟩
                               metadata := [(operationNameKey, .string "open issue")] }
         responses := [("200", { schema := some ⟨.reference "OneOfTagState", []⟩ })] }] }

lemma ApiDocument.exists_result_everyKind : ∃ api statistics,
    everyKind.resolve {} = .ok (api, statistics) ∧
      api.models.map (fun e => (e.1, e.2.flags)) =
        [("Tag", [.alias]), ("State", [.enum]), ("Options", [.record, .mapLike]),
          ("TagState", [.union, .renamed]), ("OpenIssue", [.record, .bodyModel, .renamed])] :=
  exists_result_of (by decide +kernel)

theorem everyKind_models_shaped : ∃ api statistics,
    ApiDocument.everyKind.resolve {} = .ok (api, statistics) ∧
      api.models.map (fun e => (e.1, e.2.flags)) =
        [("Tag", [.alias]), ("State", [.enum]), ("Options", [.record, .mapLike]),
          ("TagState", [.union, .renamed]), ("OpenIssue", [.record, .bodyModel, .renamed])] ∧
      ∀ e ∈ api.models, ∃ spec, (e.2.key, spec) ∈ ApiDocument.everyKind.models ∧
        spec.Shaped e.2 := by
  obtain ⟨api, statistics, h, hflags⟩ := ApiDocument.exists_result_everyKind
  obtain ⟨-, -, -, -, -, -, -, -, hshaped⟩ := models_shaped h
  exact ⟨api, statistics, h, hflags, hshaped⟩

end ApiTypes
