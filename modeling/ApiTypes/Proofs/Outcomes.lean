import ApiTypes.Proofs.Nodes
import ApiTypes.Proofs.Registration

/-!
# What a run fails with and warns of

A run takes one way through a document: along its models, their properties and the variants of
unions, then along operations, and below each of these down a schema.  Whatever is to be said of its
errors and of its warnings comes up at few places, which are the nodes without nodes below them; all
other steps only hand it on.  So the way is taken once here, for any two properties of errors and of
warnings.

* `Resolving.Tells` — the errors and the warnings of a step have a property each; `tells_pure`,
  `Tells.bind`, … — how that runs through a `do` block.
* `Scope.Leaves` — it holds of what comes up at single nodes.
* `schemaType_tells`, `model_tells`, `operation_tells`, … — then it holds of each step, and
  `resolveParts_tells` — **of all of them together.**
-/

namespace ApiTypes

namespace Resolving

variable {α β : Type} {P : ResolveError → Prop} {Q : Warning → Prop}

/-- **What a step tells**: the error that it ends in has a property, and so does each of its
warnings. -/
structure Tells (P : ResolveError → Prop) (Q : Warning → Prop) (x : Resolving α) : Prop where
  error : ∀ e, x = Except.error e → P e
  warning : ∀ a warnings, x = Except.ok (a, warnings) → ∀ w ∈ warnings, Q w

lemma tells_pure (a : α) : Tells P Q (Pure.pure a : Resolving α) where
  error := by rintro _ ⟨⟩
  warning := by
    rintro _ _ ⟨⟩ w hw
    cases hw

lemma tells_warnAll {warnings : List Warning} (h : ∀ w ∈ warnings, Q w) :
    Tells P Q (warnAll warnings) where
  error := by rintro _ ⟨⟩
  warning := by
    rintro _ _ ⟨⟩
    exact h

lemma tells_warn {w : Warning} (h : Q w) : Tells P Q (warn w) :=
  tells_warnAll (List.forall_mem_singleton.2 h)

lemma tells_located {place : String} {x : Except ResolveError α}
    (h : ∀ e, x = .error e → P (e.locate place)) : Tells P Q (located place x) := by
  cases x with
  | error e =>
    constructor
    · rintro _ ⟨⟩
      exact h e rfl
    · rintro _ _ ⟨⟩
  | ok value => exact tells_pure value

/-- Steps one after another tell what each of them tells. -/
lemma Tells.bind {x : Resolving α} {f : α → Resolving β} (hx : Tells P Q x)
    (hf : ∀ a, Tells P Q (f a)) : Tells P Q (x >>= f) := by
  rcases hfirst : x with e | ⟨a, ws⟩
  · rw [bind_of_error rfl]
    constructor
    · rintro _ ⟨⟩
      exact hx.error e hfirst
    · rintro _ _ ⟨⟩
  rcases hsecond : f a with e | ⟨b, more⟩
  · rw [bind_of_ok_error rfl hsecond]
    constructor
    · rintro _ ⟨⟩
      exact (hf a).error e hsecond
    · rintro _ _ ⟨⟩
  · rw [bind_of_ok rfl hsecond]
    constructor
    · rintro _ ⟨⟩
    · rintro _ _ ⟨⟩
      exact List.forall_mem_append.2
        ⟨hx.warning a ws hfirst, (hf a).warning b more hsecond⟩

lemma tells_mapM {f : α → Resolving β} {xs : List α} (h : ∀ x ∈ xs, Tells P Q (f x)) :
    Tells P Q (xs.mapM f) := by
  induction xs with
  | nil => exact tells_pure []
  | cons x xs ih =>
    obtain ⟨hx, hxs⟩ := List.forall_mem_cons.1 h
    rw [List.mapM_cons]
    exact hx.bind fun _ => (ih hxs).bind fun _ => tells_pure _

end Resolving

open Resolving

namespace Scope

variable {scope : Scope} {P : ResolveError → Prop} {Q : Warning → Prop} {nodes : List SchemaNode}

/-- **What comes up at single nodes**: the errors of scalars and references, and the warnings of
shapes that fit no type. -/
structure Leaves (scope : Scope) (P : ResolveError → Prop) (Q : Warning → Prop)
    (nodes : List SchemaNode) : Prop where
  scalar : ∀ node ∈ nodes, ∀ schema, node.shape = .scalar schema → ∀ location e,
    scope.scalarType schema = .error e → P (e.locate location)
  reference : ∀ node ∈ nodes, ∀ name, node.shape = .reference name → ∀ location e,
    scope.referenceType name = .error e → P (e.locate location)
  missingItems : ∀ location, Q (.missingArrayItems location)
  fallback : ∀ location reason, Q (.dynamicFallback location reason)

namespace Leaves

lemma mono {more : List SchemaNode} (h : scope.Leaves P Q more) (hsubset : nodes ⊆ more) :
    scope.Leaves P Q nodes :=
  ⟨fun node hnode => h.scalar node (hsubset hnode),
    fun node hnode => h.reference node (hsubset hnode), h.missingItems, h.fallback⟩

/-- Only the class names of the registry matter. -/
lemma of_className?_eq {r r' : Registry} {config : Config}
    (h : Leaves ⟨r, config⟩ P Q nodes) (hr : r'.className? = r.className?) :
    Leaves ⟨r', config⟩ P Q nodes where
  scalar := h.scalar
  reference node hnode name hshape location e he := by
    refine h.reference node hnode name hshape location e ?_
    rwa [referenceType, ← hr]
  missingItems := h.missingItems
  fallback := h.fallback

end Leaves

/-! ## Types -/

lemma unionType_tells (h : scope.Leaves P Q nodes) (location : String) (kind : UnionKind)
    (types : List TypeDescriptor) : Tells P Q (unionType location kind types) := by
  rw [unionType]
  split
  · exact tells_pure _
  · exact tells_pure _
  · exact (tells_warn (h.fallback _ _)).bind fun _ => tells_pure _

/-- An object that allows no undeclared properties warns of those that it declares. -/
lemma declaredObject_tells (h : scope.Leaves P Q nodes) {condition : Bool}
    {location reason : String} :
    Tells P Q (if condition then warn (.dynamicFallback location reason) >>= fun _ =>
      Pure.pure TypeDescriptor.dynamic else Pure.pure TypeDescriptor.dynamic) := by
  split
  · exact (tells_warn (h.fallback _ _)).bind fun _ => tells_pure _
  · exact tells_pure _

mutual

/-- **Finding the type of a node** tells what comes up at the nodes below it. -/
theorem schemaType_tells : ∀ (node : SchemaNode) (location : String),
    scope.Leaves P Q node.nodes → Tells P Q (scope.schemaType node location)
  | ⟨shape, metadata⟩, location, h => shapeType_tells shape metadata location h

theorem shapeType_tells : ∀ (shape : Shape SchemaNode) (metadata : Metadata) (location : String),
    scope.Leaves P Q (SchemaNode.nodes ⟨shape, metadata⟩) →
      Tells P Q (scope.shapeType shape location)
  | .scalar schema, metadata, location, h =>
      tells_located (h.scalar _ (SchemaNode.mem_nodes_self ⟨.scalar schema, metadata⟩) schema rfl _)
  | .array none, _, location, h =>
      (tells_warn (h.missingItems location)).bind fun _ => tells_pure _
  | .array (some items), metadata, location, h =>
      (schemaType_tells items _ (h.mono (nodesBelow_subset ⟨.array (some items), metadata⟩))).bind
        fun _ => tells_pure _
  | .map (.any _), _, location, _ => tells_pure _
  | .map (.schema values), metadata, location, h =>
      (schemaType_tells values _
        (h.mono (nodesBelow_subset ⟨.map (.schema values), metadata⟩))).bind fun _ => tells_pure _
  | .object ⟨properties, required, some (.schema values)⟩, metadata, location, h =>
      (schemaType_tells values _ ((h.mono
        (nodesBelow_subset ⟨.object ⟨properties, required, some (.schema values)⟩, metadata⟩)).mono
          (List.subset_append_right _ _))).bind fun _ => tells_pure _
  | .object ⟨_, _, some (.any true)⟩, _, location, _ => tells_pure _
  | .object ⟨properties, _, some (.any false)⟩, _, location, h => by
      rw [shapeType_closedObject scope (Or.inr rfl)]
      exact declaredObject_tells h
  | .object ⟨properties, _, none⟩, _, location, h => by
      rw [shapeType_closedObject scope (Or.inl rfl)]
      exact declaredObject_tells h
  | .union kind variants, metadata, location, h =>
      (variantTypes_tells variants location 0
        (h.mono (nodesBelow_subset ⟨.union kind variants, metadata⟩))).bind
          fun _ => unionType_tells h location kind _
  | .reference name, metadata, location, h =>
      tells_located
        (h.reference _ (SchemaNode.mem_nodes_self ⟨.reference name, metadata⟩) name rfl _)

theorem variantTypes_tells : ∀ (nodes : List SchemaNode) (location : String) (place : Nat),
    scope.Leaves P Q (nodesOfAll nodes) → Tells P Q (scope.variantTypes nodes location place)
  | [], _, _, _ => tells_pure _
  | node :: nodes, location, place, h =>
      (schemaType_tells node _ (h.mono (List.subset_append_left _ _))).bind fun _ =>
        (variantTypes_tells nodes location (place + 1)
          (h.mono (List.subset_append_right _ _))).bind fun _ => tells_pure _

end

/-! ## Unions and properties -/

lemma candidate_tells {node : SchemaNode} (h : scope.Leaves P Q node.nodes) (location : String) :
    Tells P Q (scope.candidate node location) := by
  rw [candidate]
  split
  · rename_i name first hfirst
    exact (schemaType_tells first _ (h.mono (nodes_subset_of_firstProperty? hfirst))).bind
      fun _ => tells_pure _
  · exact (schemaType_tells node _ h).bind fun _ => tells_pure _

lemma candidates_tells {variants : List SchemaNode} (h : scope.Leaves P Q (nodesOfAll variants))
    (union : String) (place : Nat) : Tells P Q (scope.candidates union variants place) := by
  rw [candidates_eq_mapM]
  refine tells_mapM fun e he => candidate_tells (h.mono ?_) _
  exact nodes_subset_nodesOfAll (List.fst_mem_of_mem_zipIdx he)

lemma flatten_tells {variants : List SchemaNode} (h : scope.Leaves P Q (nodesOfAll variants))
    (name : String) : Tells P Q (scope.flatten name variants) :=
  (candidates_tells h name 0).bind fun _ => tells_pure _

lemma describe_tells [Spelling] {node : SchemaNode} (h : scope.Leaves P Q node.nodes)
    (owner : Owner) (baseName : String) : Tells P Q (scope.describe owner baseName node) := by
  rw [describe.eq_def]
  dsimp only
  split
  · rename_i variants hitems
    exact (flatten_tells (h.mono (nodes_subset_of_itemVariants? hitems)) _).bind
      fun _ => tells_pure _
  split
  · rename_i kind variants hshape
    exact (flatten_tells (h.mono (nodes_subset_of_union hshape)) _).bind fun _ => tells_pure _
  · rename_i schema hshape
    refine (tells_located (h.scalar node node.mem_nodes_self schema hshape _)).bind fun _ => ?_
    split
    · exact tells_pure _
    · exact tells_pure _
  · exact (schemaType_tells node _ h).bind fun _ => tells_pure _

lemma plainProperties_tells [Spelling] {schema : ObjectSchema}
    (h : scope.Leaves P Q (nodesOfProperties schema.properties)) (owner : Owner) :
    Tells P Q (scope.plainProperties owner schema) :=
  tells_mapM fun _ he => (describe_tells (h.mono (nodes_subset_nodesOfProperties he)) _ _).bind
    fun _ => tells_pure _

lemma rememberMapLike_tells [Spelling] {schema : ObjectSchema}
    (h : scope.Leaves P Q (nodesOfProperties schema.properties)) (memo : MapLikeMemo)
    (name : String) : Tells P Q (scope.rememberMapLike memo name schema) := by
  rw [rememberMapLike]
  split
  · exact tells_pure _
  · exact (plainProperties_tells h _).bind fun _ => tells_pure _

lemma property_tells [Spelling] {node : SchemaNode} (h : scope.Leaves P Q node.nodes)
    (owner : Owner) (baseName : String) (required : Bool) (memo : MapLikeMemo) :
    Tells P Q (scope.property owner baseName node required memo) := by
  rw [property]
  split
  · rename_i schema hmapLike
    exact (rememberMapLike_tells (h.mono (nodes_subset_of_mapLike? hmapLike)) _ _).bind
      fun _ => tells_pure _
  · exact (describe_tells h _ _).bind fun _ => tells_pure _

lemma properties_tells [Spelling] {declared : List (String × SchemaNode)}
    (h : scope.Leaves P Q (nodesOfProperties declared)) (owner : Owner)
    (required : String → Bool) (memo : MapLikeMemo) :
    Tells P Q (scope.properties owner required declared memo) := by
  induction declared generalizing memo with
  | nil => exact tells_pure _
  | cons e rest ih =>
    have hnode : scope.Leaves P Q e.2.nodes := h.mono (List.subset_append_left _ _)
    have hrest : scope.Leaves P Q (nodesOfProperties rest) :=
      h.mono (List.subset_append_right _ _)
    refine (property_tells hnode _ _ _ _).bind ?_
    rintro ⟨p, memo⟩
    refine (ih hrest memo).bind ?_
    rintro ⟨ps, memo⟩
    exact tells_pure _

/-! ## Models and operations -/

/-- A model whose key is registered tells what comes up at the nodes of its schema. -/
lemma model_tells [Spelling] {key : String} {spec : ModelSpec}
    (h : scope.Leaves P Q spec.schema.nodes) (hkey : key ∈ scope.registry.keys)
    (memo : MapLikeMemo) :
    Tells P Q (scope.model key spec memo) := by
  have hsynonym : ∀ f : TypeDescriptor → ModelDescriptor × MapLikeMemo,
      Tells P Q (scope.schemaType spec.schema key >>= fun type => Pure.pure (f type)) :=
    fun f => (schemaType_tells _ _ h).bind fun _ => tells_pure _
  rw [model]
  dsimp only
  split
  case h_2 hnone => exact absurd hkey (Registry.className?_eq_none.1 hnone)
  rw [pure_bind]
  split
  · rename_i schema hshape
    have hproperties := h.mono (nodes_subset_of_object hshape)
    split
    · exact (rememberMapLike_tells hproperties _ _).bind fun _ => tells_pure _
    split
    · exact hsynonym _
    · refine (properties_tells hproperties _ _ _).bind ?_
      rintro ⟨ps, memo⟩
      exact tells_pure _
  · rename_i kind variants hshape
    exact (flatten_tells (h.mono (nodes_subset_of_union hshape)) _).bind fun _ => tells_pure _
  · rename_i schema hshape
    split
    · exact hsynonym _
    · exact (tells_located (h.scalar _ (SchemaNode.mem_nodes_self _) schema hshape _)).bind
        fun _ => tells_pure _
  · exact hsynonym _

lemma models_tells [Spelling] {specs : List (String × ModelSpec)}
    (h : scope.Leaves P Q (specs.flatMap (·.2.schema.nodes)))
    (hkeys : ∀ e ∈ specs, e.1 ∈ scope.registry.keys) (memo : MapLikeMemo) :
    Tells P Q (scope.models specs memo) := by
  induction specs generalizing memo with
  | nil => exact tells_pure _
  | cons e rest ih =>
    rw [List.flatMap_cons] at h
    obtain ⟨hkey, hkeys⟩ := List.forall_mem_cons.1 hkeys
    refine (model_tells (h.mono (List.subset_append_left _ _)) hkey memo).bind ?_
    rintro ⟨m, memo⟩
    refine (ih (h.mono (List.subset_append_right _ _)) hkeys memo).bind ?_
    rintro ⟨ms, memo⟩
    exact tells_pure _

lemma response_tells {r : ResponseSpec} (h : scope.Leaves P Q r.nodes)
    (operationId code : String) : Tells P Q (scope.response operationId code r) := by
  rw [response]
  dsimp only
  split
  · rename_i schema hschema
    have hnodes : schema.nodes ⊆ r.nodes := nodes_subset_flatMap (Option.mem_toList.2 hschema)
    exact (schemaType_tells schema _ (h.mono hnodes)).bind fun _ =>
      (tells_pure _).bind fun _ => tells_pure _
  · exact (tells_pure _).bind fun _ => tells_pure _

/-- An operation tells what comes up at the nodes of its parameters, of its body and of its
responses. -/
lemma operation_tells [Spelling] {o : OperationSpec} (h : scope.Leaves P Q o.nodes) :
    Tells P Q (scope.operation o) := by
  have hfirst := h.mono (List.subset_append_left _ _)
  have hparameters : ∀ p ∈ o.parameters, scope.Leaves P Q p.schema.nodes := fun p hp =>
    (hfirst.mono (List.subset_append_left _ _)).mono
      (nodes_subset_flatMap (f := fun p => p.schema.nodes) hp)
  have hresponses : ∀ e ∈ o.responses, scope.Leaves P Q e.2.nodes := fun e he =>
    (h.mono (List.subset_append_right _ _)).mono (nodes_subset_flatMap (f := fun e => e.2.nodes) he)
  have hrest : Tells P Q (o.responses.mapM fun e =>
      scope.response (operationIdOf scope.config o) e.1 e.2) :=
    tells_mapM fun e he => response_tells (hresponses e he) _ _
  rw [operation]
  refine (tells_mapM fun p hp => (schemaType_tells _ _ (hparameters p hp)).bind
    fun _ => tells_pure _).bind fun parameters => ?_
  dsimp only
  split
  · rename_i b hbody
    have hb : scope.Leaves P Q b.schema.nodes :=
      (hfirst.mono (List.subset_append_right _ _)).mono
        (nodes_subset_flatMap (f := fun b => b.schema.nodes) (Option.mem_toList.2 hbody))
    refine ((schemaType_tells _ _ hb).bind fun _ => tells_pure _).bind fun body => ?_
    refine (tells_pure _).bind fun body => ?_
    exact hrest.bind fun _ => tells_pure _
  · refine (tells_pure _).bind fun body => ?_
    exact hrest.bind fun _ => tells_pure _

end Scope

/-! ## The whole document -/

/-- **Until names are settled a run tells what comes up at the nodes of its document**, and what
there is to say about the class names of its models. -/
theorem ApiDocument.resolveParts_tells [Spelling] {P : ResolveError → Prop} {Q : Warning → Prop}
    {document : ApiDocument} {config : Config}
    (h : Scope.Leaves ⟨(Registry.ofDocument document).1, config⟩ P Q document.nodes)
    (hnaming : ∀ w ∈ (Registry.ofDocument document).2, Q w) :
    Tells P Q (document.resolveParts config) := by
  have hmodels := h.mono (List.subset_append_left _ _)
  have hoperations := h.mono (List.subset_append_right _ _)
  refine (tells_warnAll hnaming).bind fun _ => ?_
  refine (Scope.models_tells hmodels (fun e he => ?_) []).bind ?_
  · exact Registry.mem_keys_ofDocument.2 (Members.mem_names_of_mem he)
  rintro ⟨models, memo⟩
  have hinstalled : (models.foldl Registry.install (Registry.ofDocument document).1).className? =
      (Registry.ofDocument document).1.className? :=
    Registry.className?_of_titles Registry.titles_installAll
  refine (tells_mapM fun o ho => Scope.operation_tells ?_).bind fun _ => tells_pure _
  exact (hoperations.of_className?_eq hinstalled).mono (nodes_subset_flatMap ho)

end ApiTypes
