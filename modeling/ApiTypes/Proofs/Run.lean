import ApiTypes.Proofs.Operations
import ApiTypes.Proofs.Registration
import ApiTypes.Proofs.Settlement
import ApiTypes.Text.Latin

/-!
# A run from end to end

How the result of a run comes out of its parts, so that what is known of each part can be told of
the result.  Names are made by any spelling; documents to try things on are run in Latin spelling.

* `ApiDocument.Run` — a run: the parts that were resolved, and what was made of them.
  `exists_run` — every result comes from one.
* `Run.consistent`, `Run.legalNames`, `Run.className?_parts`, `Run.origins_parts` — the registry
  before names are settled.
* `Run.exists_installed`, `Run.exists_modelled` — each of its models was made from its own part of
  the document.
* `ResolvedDocument.named`, `needed`, `settled` — the steps of settling names.
* `Run.settled_moves`, `Run.models_eq` — the registry after that, and the models of the result.
* `Run.mem_operations`, `Run.exists_operation`, `Run.exists_body` — the operations of the result.
-/

namespace ApiTypes

open Resolving

/-- The registry of a document's parts after names were settled. -/
def ResolvedDocument.settled [Spelling] (parts : ResolvedDocument) (document : ApiDocument)
    (config : Config) : Settlement :=
  parts.registry.settle (Scope.suggestions ⟨parts.registry, config⟩ document.operations)
    parts.operations

/-- The settlement after suggested names were taken. -/
def ResolvedDocument.named [Spelling] (parts : ResolvedDocument) (document : ApiDocument)
    (config : Config) : Settlement :=
  (Settlement.mk parts.registry 0 0 []).applySuggestions
    (Scope.suggestions ⟨parts.registry, config⟩ document.operations)

/-- The settlement after lifted unions were left out, too. -/
def ResolvedDocument.needed [Spelling] (parts : ResolvedDocument) (document : ApiDocument)
    (config : Config) : Settlement :=
  (parts.named document config).dropUnreferenced (parts.operations.flatMap (·.references))

/-- The last step of settling takes markers off names. -/
lemma ResolvedDocument.settled_eq [Spelling] (parts : ResolvedDocument) (document : ApiDocument)
    (config : Config) :
    parts.settled document config = (parts.needed document config).dropMarkers :=
  rfl

/-- A model as it is in a result. -/
def ModelDescriptor.finished (classNames : String → Option String) (m : ModelDescriptor) :
    ModelDescriptor :=
  (m.relabel classNames).withFacts

@[simp] lemma ModelDescriptor.flags_finished (classNames : String → Option String)
    (m : ModelDescriptor) : (m.finished classNames).flags = m.flags :=
  rfl

namespace ApiDocument

variable {document : ApiDocument} {config : Config} {parts : ResolvedDocument} {api : TypedApi}
  {statistics : Statistics}

/-! ## Parts and results -/

/-- **A run.**  The parts were resolved from the document, and the result was made of them. -/
structure Run [Spelling] (document : ApiDocument) (config : Config) (parts : ResolvedDocument)
    (api : TypedApi) (statistics : Statistics) : Prop where
  parts_given : Gives (document.resolveParts config) parts
  byClassName_eq : api.models =
    ((parts.settled document config).registry.relabel.mapModels (·.withFacts)).byClassName
  tags_eq : api.tags = groupByTag (parts.operations.map
    (·.relabel (parts.settled document config).registry.className?))
  modelsResolved_eq : statistics.modelsResolved = document.models.length
  modelsRenamed_eq : statistics.modelsRenamed = (parts.settled document config).renamed
  modelsDropped_eq : statistics.modelsDropped = (parts.settled document config).dropped
  operationsConverted_eq : statistics.operationsConverted = parts.operations.length

lemma exists_run [Spelling] (h : document.resolve config = .ok (api, statistics)) :
    ∃ parts, document.Run config parts api statistics := by
  rw [resolve] at h
  rcases hx : (document.resolveParts config >>= document.finish config : Resolving _) with
    e | ⟨⟨api', statistics'⟩, warnings⟩
  · rw [hx] at h
    cases h
  rw [hx] at h
  injection h with h
  obtain ⟨rfl, rfl⟩ := Prod.mk.inj h
  obtain ⟨parts, hparts, hfinish⟩ := gives_bind.1 ⟨warnings, hx⟩
  simp only [finish, gives_bind, gives_pure, Prod.mk.injEq] at hfinish
  obtain ⟨-, -, -, -, -, -, rfl, rfl⟩ := hfinish
  exact ⟨parts, hparts, rfl, rfl, rfl, rfl, rfl, rfl⟩

namespace Run

variable [Spelling]

/-- The models of the parts are the registered ones, with what was made for them. -/
lemma exists_models (run : document.Run config parts api statistics) : ∃ models memo,
    Gives (Scope.models ⟨(Registry.ofDocument document).1, config⟩ document.models [])
      (models, memo) ∧
    parts.registry =
      (models.foldl Registry.install (Registry.ofDocument document).1).withMapLike memo ∧
    Gives (Scope.operations
      ⟨models.foldl Registry.install (Registry.ofDocument document).1, config⟩ document.operations)
      parts.operations := by
  have h := run.parts_given
  simp only [resolveParts, gives_bind, gives_pure, Prod.exists] at h
  obtain ⟨-, -, models, memo, hmodels, operations, hoperations, rfl⟩ := h
  exact ⟨models, memo, hmodels, rfl, hoperations⟩

/-! ## Before names are settled -/

/-- Class names and origins are as they were registered until names are settled. -/
lemma titles_parts (run : document.Run config parts api statistics) :
    parts.registry.titles = (Registry.ofDocument document).1.titles := by
  obtain ⟨models, memo, -, heq, -⟩ := run.exists_models
  rw [heq, Registry.titles_withMapLike, Registry.titles_installAll]

lemma className?_parts (run : document.Run config parts api statistics) :
    parts.registry.className? = (Registry.ofDocument document).1.className? :=
  Registry.className?_of_titles run.titles_parts

lemma parts_legalNames (run : document.Run config parts api statistics) :
    parts.registry.LegalNames :=
  Registry.legalNames_of_titles run.titles_parts Registry.ofDocument_legalNames

lemma parts_consistent (run : document.Run config parts api statistics) :
    parts.registry.Consistent := by
  obtain ⟨models, memo, -, heq, -⟩ := run.exists_models
  rw [heq]
  exact (Registry.installAll_consistent Registry.ofDocument_consistent).withMapLike memo

/-- The types of all models are current. -/
lemma models_current (run : document.Run config parts api statistics) :
    ∀ e ∈ parts.registry.models, ∀ t ∈ e.2.types, t.Current parts.registry.className? := by
  obtain ⟨models, memo, hmodels, heq, -⟩ := run.exists_models
  obtain ⟨hmodels, hmemo⟩ := Scope.models_current hmodels (fun _ he => (List.not_mem_nil he).elim)
  rw [run.className?_parts, heq]
  intro e he
  obtain ⟨e', he', rfl⟩ := List.mem_map.1 he
  refine Registry.types_withMapLike hmemo ?_
  refine Registry.forall_installAll
    (P := fun m => ∀ t ∈ m.types, t.Current (Registry.ofDocument document).1.className?)
    (fun _ _ _ h => h) ?_ hmodels e' he'
  intro e he t ht
  rw [Registry.types_registerAll (r := .empty) (by simp [Registry.empty]) e he] at ht
  cases ht

/-- The types of all operations are current. -/
lemma operations_current (run : document.Run config parts api statistics) :
    ∀ o ∈ parts.operations, ∀ t ∈ o.types, t.Current parts.registry.className? := by
  obtain ⟨models, memo, -, heq, hoperations⟩ := run.exists_models
  have hcurrent := Scope.operations_current hoperations
  rw [Registry.className?_of_titles Registry.titles_installAll] at hcurrent
  rwa [run.className?_parts]

/-! ## Models and their own parts of the document -/

/-- **A model was made from its own part of the document.** -/
lemma exists_installed {models : List ModelDescriptor} {memo : MapLikeMemo}
    (hmodels : Gives (Scope.models ⟨(Registry.ofDocument document).1, config⟩ document.models [])
      (models, memo)) {key : String} {spec : ModelSpec} (he : (key, spec) ∈ document.models) :
    ∃ m before after,
      Scope.Modelled ⟨(Registry.ofDocument document).1, config⟩ key spec before m after ∧
      (models.foldl Registry.install (Registry.ofDocument document).1).get? key = some m := by
  have hall := Scope.allModelled_of_gives hmodels
  obtain ⟨m, hm, before, after, hmodelled⟩ := hall.exists_modelled he
  obtain rfl := hmodelled.key_eq
  refine ⟨m, before, after, hmodelled, ?_⟩
  rw [Registry.get?_installAll (hall.keys_eq ▸ document.nodup_keys) hm]
  obtain ⟨old, hold, hname⟩ := Registry.className?_eq_some.1 hmodelled.className_eq
  have horigin : old.origin = spec.origin := by
    have hview : (m.key, old.origin) ∈ (Registry.ofDocument document).1.view (·.origin) :=
      Registry.mem_view _ (Members.mem_of_get? hold)
    rw [Registry.origins_ofDocument] at hview
    obtain ⟨e, he', heq⟩ := List.mem_map.1 hview
    obtain ⟨hkey, horigin⟩ := Prod.mk.inj heq
    rw [← horigin, List.inj_on_of_nodup_map document.nodup_keys he' he hkey]
  rw [hold, Option.map_some, hname, horigin, ← hmodelled.origin_eq]

/-- It gets the properties of the map-like object that is remembered under its key. -/
lemma exists_modelled {models : List ModelDescriptor} {memo : MapLikeMemo}
    (hmodels : Gives (Scope.models ⟨(Registry.ofDocument document).1, config⟩ document.models [])
      (models, memo)) {key : String} {spec : ModelSpec} (he : (key, spec) ∈ document.models) :
    ∃ m before after,
      Scope.Modelled ⟨(Registry.ofDocument document).1, config⟩ key spec before m after ∧
      ((models.foldl Registry.install (Registry.ofDocument document).1).withMapLike memo).get? key =
        some (m.withMapLike memo key) := by
  obtain ⟨m, before, after, hmodelled, hget⟩ := exists_installed hmodels he
  refine ⟨m, before, after, hmodelled, ?_⟩
  rw [Registry.withMapLike_eq, Registry.get?_changeModels, hget]
  rfl

lemma exists_made (run : document.Run config parts api statistics)
    {key : String} {spec : ModelSpec} {m : ModelDescriptor}
    (hspec : (key, spec) ∈ document.models) (hm : parts.registry.get? key = some m) :
    ∃ made memo before after,
      Scope.Modelled ⟨(Registry.ofDocument document).1, config⟩ key spec before made after ∧
      m = made.withMapLike memo key := by
  obtain ⟨models, memo, hmodels, heq, -⟩ := run.exists_models
  obtain ⟨made, before, after, hmade, hget⟩ := exists_modelled hmodels hspec
  rw [← heq, hm] at hget
  exact ⟨made, memo, before, after, hmade, Option.some.inj hget⟩

/-- The models of the parts have the keys and the origins of the document. -/
lemma origins_parts (run : document.Run config parts api statistics) :
    parts.registry.view (·.origin) = document.models.map fun e => (e.1, e.2.origin) := by
  have horigins : ∀ r : Registry, r.view (·.origin) = r.titles.map fun e => (e.1, e.2.2) := by
    simp [Registry.titles, Registry.view]
  rw [horigins, run.titles_parts, ← horigins, Registry.origins_ofDocument]

/-- A model of the document has a descriptor, of its origin. -/
lemma exists_part (run : document.Run config parts api statistics)
    {key : String} {spec : ModelSpec} (hspec : (key, spec) ∈ document.models) :
    ∃ m, parts.registry.get? key = some m ∧ m.origin = spec.origin := by
  have hmem : (key, spec.origin) ∈ parts.registry.view (·.origin) := by
    rw [run.origins_parts]
    exact List.mem_map.2 ⟨_, hspec, rfl⟩
  obtain ⟨⟨key', m⟩, hm, heq⟩ := List.mem_map.1 hmem
  obtain ⟨rfl, horigin⟩ := Prod.mk.inj heq
  exact ⟨m, run.parts_consistent.get?_eq_some.2 hm, horigin⟩

/-- A descriptor is that of a model of the document. -/
lemma exists_spec (run : document.Run config parts api statistics)
    {key : String} {m : ModelDescriptor} (hm : parts.registry.get? key = some m) :
    ∃ spec, (key, spec) ∈ document.models ∧ m.origin = spec.origin := by
  have hmem : (key, m.origin) ∈ parts.registry.view (·.origin) :=
    Registry.mem_view _ (Members.mem_of_get? hm)
  rw [run.origins_parts] at hmem
  obtain ⟨⟨key', spec⟩, hspec, heq⟩ := List.mem_map.1 hmem
  obtain ⟨rfl, horigin⟩ := Prod.mk.inj heq
  exact ⟨spec, hspec, horigin.symm⟩

/-! ## After names were settled -/

lemma settled_moves (run : document.Run config parts api statistics) :
    Settlement.Moves ⟨parts.registry, 0, 0, []⟩ (parts.settled document config) :=
  Registry.settle_moves run.parts_consistent ..

lemma settled_consistent (run : document.Run config parts api statistics) :
    (parts.settled document config).registry.Consistent :=
  run.settled_moves.consistent run.parts_consistent

lemma settled_legalNames (run : document.Run config parts api statistics) :
    (parts.settled document config).registry.LegalNames :=
  run.settled_moves.legalNames run.parts_legalNames

lemma named_moves (run : document.Run config parts api statistics) :
    Settlement.Moves ⟨parts.registry, 0, 0, []⟩ (parts.named document config) :=
  Settlement.applySuggestions_moves (s := ⟨parts.registry, 0, 0, []⟩) run.parts_consistent _

lemma named_consistent (run : document.Run config parts api statistics) :
    (parts.named document config).registry.Consistent :=
  run.named_moves.consistent run.parts_consistent

/-- The models of the result are those that are left, finished, by their class names. -/
lemma models_eq (run : document.Run config parts api statistics) :
    api.models = (parts.settled document config).registry.models.map fun e =>
      (e.2.className, e.2.finished (parts.settled document config).registry.className?) := by
  have hconsistent : ((parts.settled document config).registry.relabel.mapModels
      (·.withFacts)).Consistent := by
    rw [Registry.relabel, Registry.mapModels_eq, Registry.mapModels_eq]
    exact (run.settled_consistent.changeModels (fun _ _ => rfl) (fun _ _ => rfl)).changeModels
      (fun _ _ => rfl) (fun _ _ => rfl)
  rw [run.byClassName_eq, hconsistent.byClassName_eq]
  simp only [Registry.relabel, Registry.mapModels, List.map_map]
  rfl

/-- A model that is left is in the result. -/
lemma mem_models_of_get? (run : document.Run config parts api statistics) {key : String}
    {left : ModelDescriptor}
    (hleft : (parts.settled document config).registry.get? key = some left) :
    (left.className, left.finished (parts.settled document config).registry.className?) ∈
        api.models ∧ left.key = key := by
  have hmem := Members.mem_of_get? hleft
  rw [run.models_eq]
  exact ⟨List.mem_map.2 ⟨_, hmem, rfl⟩, run.settled_consistent.key_eq _ hmem⟩

/-- **Where a model of the result comes from**: it was left when names were settled, it was there
before, looking the same to every stable view, and it is a model of the document. -/
lemma exists_source (run : document.Run config parts api statistics)
    {e : String × ModelDescriptor} (he : e ∈ api.models) :
    ∃ left m spec, (parts.settled document config).registry.get? e.2.key = some left ∧
      e.1 = left.className ∧
      e.2 = left.finished (parts.settled document config).registry.className? ∧
      parts.registry.get? e.2.key = some m ∧ (e.2.key, spec) ∈ document.models ∧
      m.origin = spec.origin ∧
      ∀ {α : Type} (v : ModelDescriptor → α), ModelDescriptor.Stable v → v left = v m := by
  rw [run.models_eq] at he
  obtain ⟨⟨key, left⟩, hleft, rfl⟩ := List.mem_map.1 he
  obtain rfl : left.key = key := run.settled_consistent.key_eq _ hleft
  have hget := run.settled_consistent.get?_eq_some.2 hleft
  obtain ⟨m, hm⟩ := run.settled_moves.exists_get? hget
  obtain ⟨spec, hspec, horigin⟩ := run.exists_spec hm
  exact ⟨left, m, spec, hget, rfl, rfl, hm, hspec, horigin,
    fun v hv => run.settled_moves.view_eq hv run.parts_consistent hm hget⟩

/-- The keys that are left, in order. -/
lemma keys_eq (run : document.Run config parts api statistics) :
    api.models.map (·.2.key) = (parts.settled document config).registry.keys := by
  rw [run.models_eq, List.map_map]
  exact List.map_congr_left fun e he => run.settled_consistent.key_eq e he

/-- The operations of the result are those that were resolved, with the names of their types made
anew. -/
lemma mem_operations (run : document.Run config parts api statistics) {o : OperationDescriptor} :
    o ∈ api.operations ↔ ∃ o' ∈ parts.operations,
      o = o'.relabel (parts.settled document config).registry.className? := by
  rw [TypedApi.operations, run.tags_eq, (operations_groupByTag _).mem_iff, List.mem_map]
  simp only [eq_comm]

/-- **An operation of a result was made from one of the document**, when the models had the class
names that they had before names were settled. -/
lemma exists_operation (run : document.Run config parts api statistics) {o : OperationDescriptor}
    (ho : o ∈ api.operations) : ∃ registry spec made,
      registry.className? = parts.registry.className? ∧ spec ∈ document.operations ∧
      Gives (Scope.operation ⟨registry, config⟩ spec) made ∧
      o = made.relabel (parts.settled document config).registry.className? := by
  obtain ⟨models, memo, -, heq, hoperations⟩ := run.exists_models
  obtain ⟨made, hmade, rfl⟩ := run.mem_operations.1 ho
  obtain ⟨spec, hspec, hgives⟩ := exists_of_gives_mapM hoperations hmade
  refine ⟨_, spec, made, Registry.className?_of_titles ?_, hspec, hgives, rfl⟩
  rw [run.titles_parts, Registry.titles_installAll]

/-- The body of an operation of a result was made from one that the document declares. -/
lemma exists_body (run : document.Run config parts api statistics) {o : OperationDescriptor}
    (ho : o ∈ api.operations) {b : PropertyDescriptor} (hb : b ∈ o.body) :
    ∃ scope operationId spec made, Gives (Scope.body scope operationId spec) made ∧
      b = made.1.mapTypes (relabelType (parts.settled document config).registry.className?) := by
  obtain ⟨registry, spec, made, -, -, hgives, rfl⟩ := run.exists_operation ho
  obtain ⟨-, body, -, -, hbody, -, heq, -⟩ := Scope.operation_cases hgives
  obtain ⟨b', hb', rfl⟩ := Option.map_eq_some_iff.1 hb
  obtain ⟨p, hp, rfl⟩ := Option.map_eq_some_iff.1 (heq.symm.trans hb')
  obtain ⟨spec, -, hp⟩ := exists_of_rel hbody hp
  exact ⟨_, _, spec, p, hp, rfl⟩

end Run

/-! ## Documents to try things on -/

/-- A run whose outcome is looked at has one. -/
lemma exists_outcome_of [Spelling] {α : Type} (view : TypedApi × Statistics → α) {expected : α}
    (h : (document.resolve config).toOption.map view = some expected) :
    ∃ api statistics, document.resolve config = .ok (api, statistics) ∧
      view (api, statistics) = expected := by
  rcases hresult : document.resolve config with e | ⟨api, statistics⟩
  · rw [hresult] at h
    cases h
  · rw [hresult] at h
    exact ⟨api, statistics, rfl, Option.some.inj h⟩

lemma exists_result_of [Spelling] {α : Type} {view : TypedApi → α} {expected : α}
    (h : (document.resolve config).toOption.map (fun result => view result.1) = some expected) :
    ∃ api statistics, document.resolve config = .ok (api, statistics) ∧ view api = expected :=
  exists_outcome_of (fun result => view result.1) h

/-- A document in which settling has something to do: the body of the operation takes its name, one
lifted union loses its marker, and the other is left out. -/
def petShop : ApiDocument :=
  { title := "Pets"
    version := "1"
    models :=
      [("pet", { schema := ⟨.object { properties := [("id", ⟨.scalar { kind := .integer }, []⟩),
          ("owner", ⟨.reference "OneOfPetPerson", []⟩)], required := ["id"] }, []⟩ }),
        ("person", { schema := ⟨.object { properties :=
          [("pets", ⟨.array (some ⟨.reference "pet", []⟩), []⟩)] }, []⟩ }),
        ("OneOfPetPerson", { schema := ⟨.union .oneOf [⟨.reference "pet", []⟩,
          ⟨.reference "person", []⟩], []⟩, origin := .composed }),
        ("OneOfNothing", { schema := ⟨.union .oneOf [⟨.reference "pet", []⟩], []⟩
                           origin := .composed }),
        ("pets_post_body", { schema := ⟨.object { properties :=
          [("pet", ⟨.reference "pet", []⟩)] }, []⟩, origin := .requestBody })]
    operations :=
      [{ path := "/pets"
         method := "post"
         requestBody := some { schema := ⟨.reference "pets_post_body", []⟩
                               metadata := [(operationNameKey, .string "add pet")] }
         responses := [("200", { schema := some ⟨.array (some ⟨.reference "pet", []⟩), []⟩ })] }] }

lemma exists_result_petShop : ∃ api statistics, petShop.resolve {} = .ok (api, statistics) := by
  have hlength : ∃ api statistics, petShop.resolve {} = .ok (api, statistics) ∧
      api.models.length = 4 := exists_result_of (by decide +kernel)
  obtain ⟨api, statistics, h, -⟩ := hlength
  exact ⟨api, statistics, h⟩

end ApiDocument

end ApiTypes
