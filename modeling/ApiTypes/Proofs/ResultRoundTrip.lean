import ApiTypes.Proofs.DescriptorRoundTrip
import ApiTypes.Proofs.PropertyCoherence
import ApiTypes.Proofs.TagGroups
import ApiTypes.Text.Latin

/-!
# Results that are written and read

Everything in a result comes back as it was: the facts for the renderer are truth values and counts,
put in the order of their names one by one, flags are set in their order, and unions have no more
variants than the document lists for them.  So a result comes back when its text nests no deeper
than a text may.

* `ApiDocument.Countable` — documents whose unions have no more variants than can be counted.
* `describe_exact`, `Modelled.exact` — properties and models come back as they are made;
  `Exact.becomes`, `Exact.finished` — and every change of a model keeps them so.
* `TypedApi.ofTree_toJson` — **a result that is written and read is the same result.**
-/

namespace ApiTypes

open Resolving

/-! ## Facts for the renderer -/

namespace ExactMembers

variable {e : Extensions}

lemma insert (h : ExactMembers e) (name : String) {value : Json} (hvalue : value.Exact) :
    ExactMembers (Members.insert e name value) where
  sorted := Members.sorted_insert h.sorted
  exact entry hentry := by
    rcases Members.mem_of_mem_insert hentry with rfl | hentry
    · exact hvalue
    · exact h.exact entry hentry

lemma flag (h : ExactMembers e) (x : Extension) : ExactMembers (Extensions.flag e x) :=
  h.insert x.key (.bool true)

lemma flagIf (h : ExactMembers e) (x : Extension) (condition : Bool) :
    ExactMembers (Extensions.flagIf e x condition) := by
  cases condition with
  | false => exact h
  | true => exact h.flag x

lemma foldl_flag (h : ExactMembers e) (xs : List Extension) :
    ExactMembers (xs.foldl Extensions.flag e) := by
  induction xs generalizing e with
  | nil => exact h
  | cons x xs ih => exact ih (h.flag x)

lemma flagContainer (h : ExactMembers e) (t : TypeDescriptor) :
    ExactMembers (Extensions.flagContainer e t) := by
  rw [Extensions.flagContainer]
  split
  · exact (h.flag _).flag _
  · split
    · exact (h.flag _).flag _
    · exact h

end ExactMembers

/-! ## Properties as they are made -/

namespace PropertyDescriptor.Exact

variable {p q : PropertyDescriptor}

/-- A property comes back when its facts and its union do. -/
lemma of_union (hextensions : ExactMembers p.extensions) (hunion : ∀ u ∈ p.union, u.Exact) :
    p.Exact :=
  .mk hextensions (fun u hu => (hunion u hu).count) fun u hu => (hunion u hu).variants

lemma extensions (h : p.Exact) : ExactMembers p.extensions := by
  cases h with
  | mk hextensions => exact hextensions

lemma union (h : p.Exact) : ∀ u ∈ p.union, u.Exact := by
  cases h with
  | mk hextensions hcount hvariants => exact fun u hu => ⟨hcount u hu, hvariants u hu⟩

end PropertyDescriptor.Exact

/-- A node without more variants than a word can count. -/
def SchemaNode.Countable (node : SchemaNode) : Prop :=
  ∀ kind variants, node.shape = .union kind variants → variants.length < UInt64.size

instance (node : SchemaNode) : Decidable node.Countable :=
  match node with
  | ⟨.union kind variants, _⟩ =>
    decidable_of_iff (variants.length < UInt64.size)
      ⟨fun h _ _ heq => (Shape.union.inj heq).2 ▸ h, fun h => h kind variants rfl⟩
  | ⟨.scalar _, _⟩ | ⟨.array _, _⟩ | ⟨.map _, _⟩ | ⟨.object _, _⟩ | ⟨.reference _, _⟩ =>
    isTrue fun _ _ heq => nomatch heq

/-- **A document whose unions have no more variants than a word can count**, as has every document
that fits into memory. -/
def ApiDocument.Countable (document : ApiDocument) : Prop :=
  ∀ node ∈ document.nodes, node.Countable

namespace Scope

variable {scope : Scope} {memo memo' : MapLikeMemo} {owner : Owner}

/-- A union comes back when the variants that are listed for it can be counted. -/
lemma flatten_exact {name : String} {variants : List SchemaNode} {u : UnionDescriptor}
    (hcount : variants.length < UInt64.size) (h : Gives (scope.flatten name variants) u) :
    u.Exact := by
  constructor
  · obtain ⟨ps, hps, rfl⟩ := gives_flatten.1 h
    have hkept := (firstSeen_sublist (fun p q => p.type.sameType q.type) ps).length_le
    rw [← hps.length_eq, List.length_zipIdx] at hkept
    exact lt_of_le_of_lt hkept hcount
  · intro v hv
    obtain ⟨node, -, location, type, -, name, rfl⟩ := exists_variantType h v hv
    exact .of_union ((exactMembers_nil.flagIf _ _).flagContainer type) (by simp [SchemaNode.asVariant])

variable [Spelling]

/-- **A property comes back as it is made.** -/
lemma describe_exact {baseName : String} {node : SchemaNode} {facts : PropertyFacts}
    (hcount : ∀ below ∈ node.nodes, below.Countable)
    (h : Gives (scope.describe owner baseName node) facts) (required : Bool) :
    (facts.property baseName required).Exact := by
  refine .of_union exactMembers_nil ?_
  cases described_of_gives h with
  | unions hitems hunion =>
    obtain ⟨items, kind, hshape, hitems⟩ := SchemaNode.itemVariants?_eq_some hitems
    have hbelow := nodes_subset_of_items hshape items.mem_nodes_self
    simpa [PropertyFacts.property] using
      flatten_exact (hcount items hbelow kind _ hitems) hunion
  | union hshape hunion =>
    simpa [PropertyFacts.property] using
      flatten_exact (hcount node node.mem_nodes_self _ _ hshape) hunion
  | _ => simp [PropertyFacts.property]

lemma plainProperties_exact {schema : ObjectSchema} {ps : List PropertyDescriptor}
    (hcount : ∀ below ∈ nodesOfProperties schema.properties, below.Countable)
    (h : Gives (scope.plainProperties owner schema) ps) : ∀ p ∈ ps, p.Exact := by
  intro p hp
  obtain ⟨e, he, facts, hfacts, rfl⟩ := exists_described h p hp
  exact describe_exact (fun below hbelow =>
    hcount below (nodes_subset_nodesOfProperties he hbelow)) hfacts _

lemma properties_exact {required : String → Bool} {declared : List (String × SchemaNode)}
    {ps : List PropertyDescriptor}
    (hcount : ∀ below ∈ nodesOfProperties declared, below.Countable)
    (h : Gives (scope.properties owner required declared memo) (ps, memo')) :
    ∀ p ∈ ps, p.Exact := by
  intro p hp
  obtain ⟨e, he, ⟨-, rfl⟩ | ⟨-, facts, hfacts, rfl⟩⟩ := exists_declared h p hp
  · exact .of_union exactMembers_nil (by simp [PropertyFacts.property])
  · exact describe_exact (fun below hbelow =>
      hcount below (nodes_subset_nodesOfProperties he hbelow)) hfacts _

/-- **A model comes back as it is made.** -/
lemma Modelled.exact {key : String} {spec : ModelSpec} {m : ModelDescriptor}
    (hcount : ∀ below ∈ spec.schema.nodes, below.Countable)
    (h : Modelled scope key spec memo m memo') : m.Exact := by
  cases h with
  | mapLike => exact ⟨by simp, by simp, rfl, exactMembers_nil⟩
  | record hname hshape hmapLike hps hdeclared =>
    refine ⟨properties_exact (fun below hbelow => hcount below ?_) hps, by simp, rfl,
      exactMembers_nil⟩
    exact nodes_subset_of_object hshape hbelow
  | union hname hshape hunion =>
    have hexact := flatten_exact (hcount _ spec.schema.mem_nodes_self _ _ hshape) hunion
    exact ⟨by simp, by simpa using hexact, rfl, exactMembers_nil⟩
  | enum => exact ⟨by simp, by simp, rfl, exactMembers_nil⟩
  | synonym => exact ⟨by simp, by simp, rfl, exactMembers_nil⟩

end Scope

/-! ## Changes of properties and models -/

/-- A union whose variants are changed has as many of them. -/
lemma UnionOf.Exact.map {u : UnionDescriptor} (h : u.Exact)
    {f : PropertyDescriptor → PropertyDescriptor} (hf : ∀ v ∈ u.variants, (f v).Exact) :
    UnionOf.Exact { u with variants := u.variants.map f } where
  count := h.count
  variants := List.forall_mem_map.2 hf

lemma UnionOf.Exact.rebase {u : UnionDescriptor} (h : u.Exact) (previous current : String) :
    UnionOf.Exact (u.rebase previous current) :=
  h.map fun v hv => .of_union (h.variants v hv).extensions (h.variants v hv).union

namespace PropertyDescriptor.Exact

variable {p : PropertyDescriptor}

lemma rebase (h : p.Exact) (previous current : String) : (p.rebase previous current).Exact := by
  refine .of_union h.extensions ?_
  intro u hu
  obtain ⟨u', hu', rfl⟩ := Option.map_eq_some_iff.1 hu
  exact (h.union u' hu').rebase previous current

lemma mapTypes (h : p.Exact) (f : TypeDescriptor → TypeDescriptor) : (p.mapTypes f).Exact := by
  induction h with
  | @mk p hextensions hcount hvariants ih =>
    rw [mapTypes_eq]
    refine .of_union hextensions ?_
    intro u hu
    obtain ⟨u', hu', rfl⟩ := Option.map_eq_some_iff.1 hu
    have hexact : UnionOf.Exact u' := ⟨hcount u' hu', hvariants u' hu'⟩
    exact hexact.map (ih u' hu')

lemma withFacts (h : p.Exact) : p.withFacts.Exact :=
  .of_union (((h.extensions.flagIf _ _).flagIf _ _).flagIf _ _) h.union

end PropertyDescriptor.Exact

namespace ModelDescriptor.Exact

variable {m m' : ModelDescriptor}

lemma renamedFrom (h : m.Exact) (previous : String) : (m.renamedFrom previous).Exact where
  properties p hp := by
    obtain ⟨p', hp', rfl⟩ := List.mem_map.1 hp
    exact (h.properties p' hp').rebase _ _
  union u hu := by
    obtain ⟨u', hu', rfl⟩ := Option.map_eq_some_iff.1 hu
    exact (h.union u' hu').rebase previous m.className
  flags := ModelFlags.ordered_set _ _
  extensions := h.extensions

lemma called (h : m.Exact) (className : String) : (m.called className).Exact := by
  rw [ModelDescriptor.called]
  split
  · exact h
  · exact renamedFrom (m := m.titled className) ⟨h.properties, h.union, h.flags, h.extensions⟩ _

/-- **Settling names keeps what comes back.** -/
lemma becomes (h : m.Exact) (hm' : m.Becomes m') : m'.Exact := by
  induction hm' with
  | refl => exact h
  | called _ className ih => exact ih.called className
  | asBody _ ih =>
    exact ⟨ih.properties, ih.union, ModelFlags.ordered_set _ _, ih.extensions.flag _⟩

/-- **A model comes back in a result** when it did before. -/
lemma finished (h : m.Exact) (classNames : String → Option String) :
    (m.finished classNames).Exact := by
  have hunion : ∀ u ∈ (m.relabel classNames).union, u.Exact := by
    intro u hu
    obtain ⟨u', hu', rfl⟩ := Option.map_eq_some_iff.1 hu
    exact (h.union u' hu').map fun v hv => ((h.union u' hu').variants v hv).mapTypes _
  refine ⟨?_, hunion, h.flags, ?_⟩
  · intro p hp
    obtain ⟨p', hp', rfl⟩ := List.mem_map.1 hp
    obtain ⟨p'', hp'', rfl⟩ := List.mem_map.1 hp'
    exact ((h.properties p'' hp'').mapTypes _).withFacts
  · rw [ModelDescriptor.finished, withFacts]
    dsimp only
    refine ExactMembers.flagIf ?_ _ _
    have hfacts := (ExactMembers.foldl_flag h.extensions
      (m.relabel classNames).ownTypeFacts).flagIf .isEnum
        ((m.relabel classNames).flags.contains .enum)
    split
    · rename_i u hu
      have hcount : (Json.ofNat u.variantCount).Exact :=
        .int (Source.Scalar.fitsWord_natCast (hunion u hu).count)
      exact ((hfacts.flag _).insert _ hcount).flagIf _ _
    · exact hfacts

end ModelDescriptor.Exact

/-! ## Operations -/

namespace Scope

variable {scope : Scope} {operationId : String}

lemma body_exact {spec : RequestBodySpec} {body : PropertyDescriptor × Bool}
    (h : Gives (scope.body operationId spec) body) : body.1.Exact := by
  obtain ⟨resolved, -, h⟩ := gives_bind.1 h
  rw [← gives_pure.1 h]
  have hmap : ∀ t : TypeDescriptor,
      ExactMembers (if t.isMap then Extensions.flagContainer [] t else []) := by
    intro t
    split
    · exact exactMembers_nil.flagContainer t
    · exact exactMembers_nil
  exact .of_union (hmap _) (by simp)

lemma operationExtensions_exact (isBytes : Bool) (query : List ParameterDescriptor)
    (responses : List ResponseDescriptor) (metadata : Metadata) :
    ExactMembers (operationExtensions isBytes query responses metadata) :=
  (((((exactMembers_nil.flagIf _ _).flagIf _ _).flagIf _ _).flagIf _ _).flagIf _ _).flagIf _ _

variable [Spelling]

/-- The facts of an operation are told from its parts. -/
lemma operation_extensions {spec : OperationSpec} {o : OperationDescriptor}
    (h : Gives (scope.operation spec) o) :
    ∃ isBytes, o.extensions =
      operationExtensions isBytes o.queryParams o.responses spec.metadata := by
  obtain ⟨-, -, -, -, -, -, rfl⟩ := operation_eq h
  exact ⟨_, rfl⟩

/-- Parameters have no facts. -/
lemma parameter_extensions {spec : ParameterSpec} {p : ParameterDescriptor}
    (h : Gives (scope.parameter operationId spec) p) : p.extensions = [] := by
  obtain ⟨type, -, h⟩ := gives_bind.1 h
  rw [← gives_pure.1 h]

lemma operation_exact {spec : OperationSpec} {o : OperationDescriptor}
    (h : Gives (scope.operation spec) o) : o.Exact := by
  obtain ⟨parameters, body, responses, hparameters, hbody, -, obody, opath, oquery, oheader, -⟩ :=
    operation_cases h
  have hparameter : ∀ p ∈ parameters, ExactMembers p.extensions := by
    intro p hp
    obtain ⟨spec, -, hp⟩ := exists_of_gives_mapM hparameters hp
    rw [parameter_extensions hp]
    exact exactMembers_nil
  refine ⟨?_, ?_, ?_⟩
  · intro b hb
    obtain ⟨b', hb', rfl⟩ := Option.map_eq_some_iff.1 (obody ▸ hb)
    obtain ⟨spec, -, hb'⟩ := exists_of_rel hbody hb'
    exact body_exact hb'
  · intro p hp
    simp only [OperationDescriptor.parameters, opath, oquery, oheader, List.mem_append] at hp
    rcases hp with (hp | hp) | hp
    · exact hparameter p (List.mem_of_mem_filter hp)
    · obtain ⟨p', hp', rfl⟩ := List.mem_map.1 hp
      have hexact := hparameter p' (List.mem_of_mem_filter hp')
      split
      · exact hexact
      · exact hexact
    · exact hparameter p (List.mem_of_mem_filter hp)
  · obtain ⟨isBytes, heq⟩ := operation_extensions h
    rw [heq]
    exact operationExtensions_exact _ _ _ _

end Scope

/-- New names of types leave what else there is to an operation. -/
lemma OperationDescriptor.Exact.relabel {o : OperationDescriptor} (h : o.Exact)
    (classNames : String → Option String) : (o.relabel classNames).Exact where
  body b hb := by
    obtain ⟨b', hb', rfl⟩ := Option.map_eq_some_iff.1 hb
    exact (h.body b' hb').mapTypes _
  parameters p hp := by
    have hsame : ∃ p' ∈ o.parameters, p.extensions = p'.extensions := by
      simp only [OperationDescriptor.relabel, OperationDescriptor.mapTypes,
        OperationDescriptor.parameters, ← List.map_append] at hp
      obtain ⟨p', hp', rfl⟩ := List.mem_map.1 hp
      exact ⟨p', hp', rfl⟩
    obtain ⟨p', hp', heq⟩ := hsame
    exact heq ▸ h.parameters p' hp'
  extensions := h.extensions

/-! ## Results -/

/-- The properties of the map-like objects of a document are declared in it. -/
lemma nodes_subset_of_mem_mapLikes {document : ApiDocument} {name : String}
    {schema : ObjectSchema} (h : (name, schema) ∈ document.mapLikes) :
    nodesOfProperties schema.properties ⊆ document.nodes := by
  obtain ⟨⟨key, spec⟩, hspec, h⟩ := List.mem_flatMap.1 h
  have hdocument : spec.schema.nodes ⊆ document.nodes := fun below hbelow =>
    List.mem_append_left _ (List.mem_flatMap.2 ⟨(key, spec), hspec, hbelow⟩)
  refine List.Subset.trans ?_ hdocument
  rw [ModelSpec.mapLikes] at h
  split at h
  · rename_i declared hshape
    split at h
    · obtain ⟨-, rfl⟩ : name = key ∧ schema = declared := by simpa using h
      exact nodes_subset_of_object hshape
    · obtain ⟨e, he, h⟩ := List.mem_filterMap.1 h
      obtain ⟨inner, hinner, heq⟩ := Option.map_eq_some_iff.1 h
      obtain ⟨-, rfl⟩ := Prod.mk.inj heq
      exact List.Subset.trans (nodes_subset_of_mapLike? hinner)
        (List.Subset.trans (nodes_subset_nodesOfProperties he) (nodes_subset_of_object hshape))
  · cases h

namespace ApiDocument.Run

variable {document : ApiDocument} {config : Config} {parts : ResolvedDocument} {api : TypedApi}
  {statistics : Statistics} {m : ModelDescriptor}

/-- A model comes back before names are settled. -/
lemma parts_exact [Spelling] (run : document.Run config parts api statistics)
    (hcount : document.Countable) {key : String}
    {spec : ModelSpec} (hspec : (key, spec) ∈ document.models)
    (hm : parts.registry.get? key = some m) : m.Exact := by
  obtain ⟨made, _, _, hmade, hcases⟩ := run.parts_cases hspec hm
  have hmadeExact : made.Exact := hmade.exact fun below hbelow =>
    hcount below (List.mem_append_left _ (List.mem_flatMap.2 ⟨(key, spec), hspec, hbelow⟩))
  obtain ⟨-, -, rfl⟩ | ⟨schema, ps, hschema, hps, rfl⟩ := hcases
  · exact hmadeExact
  · refine ⟨?_, hmadeExact.union, ModelFlags.ordered_set _ _, hmadeExact.extensions⟩
    exact Scope.plainProperties_exact (fun below hbelow =>
      hcount below (nodes_subset_of_mem_mapLikes (Members.mem_of_get? hschema) hbelow)) hps

/-- **A result comes back as it was.** -/
lemma exact [AsciiSpelling] (run : document.Run config parts api statistics)
    (hcount : document.Countable) : api.Exact where
  classNames := by
    have hnames : Members.names api.models =
        (parts.settled document config).registry.classNames := by
      rw [run.models_eq, Members.names, List.map_map]
      rfl
    rw [hnames]
    exact run.settled_consistent.names_nodup
  models e he := by
    obtain ⟨left, m, spec, hleft, -, heq, hm, hspec, -, -⟩ := run.exists_source he
    have hexact := (run.parts_exact hcount hspec hm).becomes
      (becomes_settle run.parts_consistent run.parts_legalNames hm hleft)
    rw [heq]
    exact hexact.finished _
  tags := by
    rw [run.tags_eq]
    exact (filed_groupByTag _).names_nodup
  operations o ho := by
    obtain ⟨registry, spec, made, -, -, hmade, rfl⟩ := run.exists_operation ho
    exact (Scope.operation_exact hmade).relabel _

end ApiDocument.Run

/-- **A result that is written and read is the same result**, down to the order of its models, tags
and operations, on one line or over several, when its text nests no deeper than a text may. -/
theorem TypedApi.ofTree_toJson [AsciiSpelling] {document : ApiDocument} {config : Config}
    {api : TypedApi} {statistics : Statistics} (hcount : document.Countable)
    (h : document.resolve config = .ok (api, statistics))
    (hdepth : api.toJson.depth ≤ Json.greatestDepth) :
    Format.decodeJson TypedApi.ofTree api.toJson.compact = .ok api ∧
      Format.decodeJson TypedApi.ofTree api.toJson.pretty = .ok api := by
  obtain ⟨parts, run⟩ := ApiDocument.exists_run h
  have hnesting : Json.greatestDepth ≤ greatestNesting := by decide
  obtain ⟨hreadable, hdecoded⟩ :=
    TypedApi.decodes_toJson (run.exact hcount) (hdepth.trans hnesting)
  obtain ⟨hcompact, hpretty⟩ := Json.decodeJson_of_readable hreadable hdepth TypedApi.ofTree
  exact ⟨hcompact.trans hdecoded, hpretty.trans hdecoded⟩

namespace ApiDocument

lemma exists_result_petShop_depth : ∃ api statistics, petShop.resolve {} = .ok (api, statistics) ∧
    (api.models.map (fun e => (e.1, e.2.union.isSome)), api.toJson.depth) =
      ([("Pet", false), ("Person", false), ("PetPerson", true), ("AddPet", false)], 9) :=
  exists_result_of (by decide +kernel)

/-- The models of the pets, their union among them, come back as they were. -/
theorem petShop_ofTree_toJson : petShop.Countable ∧
    ∃ api statistics, petShop.resolve {} = .ok (api, statistics) ∧
      api.models.map (fun e => (e.1, e.2.union.isSome)) =
        [("Pet", false), ("Person", false), ("PetPerson", true), ("AddPet", false)] ∧
      api.toJson.depth ≤ Json.greatestDepth ∧
      Format.decodeJson TypedApi.ofTree api.toJson.compact = .ok api ∧
      Format.decodeJson TypedApi.ofTree api.toJson.pretty = .ok api := by
  have hcount : ∀ node ∈ petShop.nodes, node.Countable := by decide +kernel
  obtain ⟨api, statistics, h, hview⟩ := exists_result_petShop_depth
  obtain ⟨hmodels, hdepth⟩ := Prod.mk.inj hview
  have hshallow : api.toJson.depth ≤ Json.greatestDepth := by
    rw [hdepth]
    decide
  exact ⟨hcount, api, statistics, h, hmodels, hshallow, TypedApi.ofTree_toJson hcount h hshallow⟩

end ApiDocument

end ApiTypes
