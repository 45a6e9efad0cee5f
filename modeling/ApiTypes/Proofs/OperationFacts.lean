import ApiTypes.Proofs.Extensions
import ApiTypes.Proofs.TagGroups
import ApiTypes.Proofs.UnionVariants
import ApiTypes.Text.Latin

/-!
# What the facts of an operation say

The facts that a run tells the renderer about an operation are told when the operation is made,
before names are settled.  They still are right of the operation in a result: relabelling turns no
type into one that a fact speaks of, and none into another one but that of any value.

The body of an operation is never taken as any value: such a body is one of bytes.  So the body of
an operation in a result has the type of any value just when it leads to a model, through nothing
but unions, and this model is left out.

* `SchemaNode.LeadsTo` — a node that refers to a model, or a union of nothing else.
* `schemaType_reference_iff` — the type of a node refers to a model just when the node leads there.
* `OperationDescriptor.Fact` — what each fact says of an operation.
* `operation_flagged_iff` — the facts are right when they are told;
  `OperationDescriptor.fact_relabel` — and stay right.
* `operations_truthful` — **the facts of the operations of a result are right.**
-/

namespace ApiTypes

open Resolving
open TypeDescriptor (Current)

/-! ## Nodes that lead to a model -/

/-- **A node that leads to a model**: it refers to it, or is a union of nodes that all lead to
it. -/
inductive SchemaNode.LeadsTo (key : String) : SchemaNode → Prop where
  | reference (metadata : Metadata) : LeadsTo key ⟨.reference key, metadata⟩
  | union (kind : UnionKind) {variants : List SchemaNode} (metadata : Metadata)
      (hne : variants ≠ []) (h : ∀ v ∈ variants, LeadsTo key v) :
      LeadsTo key ⟨.union kind variants, metadata⟩

/-- Types that come to a model are all that model. -/
lemma TypesTo.reference {classNames : String → Option String} (hnames : Unambiguous classNames)
    {types : List TypeDescriptor} {t : TypeDescriptor} {key : String} (h : TypesTo types t)
    (hcurrent : ∀ u ∈ types, Current classNames u) (hkey : t.reference = some key) :
    types ≠ [] ∧ ∀ u ∈ types, u.reference = some key := by
  cases h with
  | none => cases hkey
  | @sole first rest hsame =>
    obtain ⟨hfirst, hrest⟩ := List.forall_mem_cons.1 hcurrent
    refine ⟨List.cons_ne_nil _ _, List.forall_mem_cons.2 ⟨hkey, fun u hu => ?_⟩⟩
    have hbuild := (hfirst.sameType_iff hnames (hrest u hu)).1 (hsame u hu)
    exact (hrest u hu).reference_eq_some_iff.2 (hbuild ▸ hfirst.reference_eq_some_iff.1 hkey)
  | several ht hu hdiffer => cases hkey

namespace Scope

variable {scope : Scope} {key : String}

/-- A node of another shape leads nowhere. -/
lemma shapeType_reference_eq_none {shape : Shape SchemaNode} {location : String}
    {t : TypeDescriptor} (hunion : ∀ kind variants, shape ≠ .union kind variants)
    (hreference : ∀ name, shape ≠ .reference name) (h : Gives (scope.shapeType shape location) t) :
    t.reference = none := by
  cases shape with
  | scalar schema =>
    rw [shapeType, gives_located] at h
    obtain ⟨p, rfl⟩ := scalarType_eq_ok h
    rfl
  | array items =>
    cases items with
    | none =>
      simp only [shapeType, gives_bind, gives_pure] at h
      obtain ⟨_, _, rfl⟩ := h
      rfl
    | some items =>
      simp only [shapeType, gives_bind, gives_pure] at h
      obtain ⟨inner, -, rfl⟩ := h
      rfl
  | map values =>
    cases values with
    | any allowed =>
      rw [shapeType, gives_pure] at h
      exact h ▸ rfl
    | schema values =>
      simp only [shapeType, gives_bind, gives_pure] at h
      obtain ⟨inner, -, rfl⟩ := h
      rfl
  | object schema =>
    obtain ⟨properties, required, _ | (_ | _) | values⟩ := schema
    · rw [shapeType_closedObject scope (Or.inl rfl)] at h
      rw [declaredObject_eq h]
      rfl
    · rw [shapeType_closedObject scope (Or.inr rfl)] at h
      rw [declaredObject_eq h]
      rfl
    · rw [shapeType, gives_pure] at h
      exact h ▸ rfl
    · simp only [shapeType, gives_bind, gives_pure] at h
      obtain ⟨inner, -, rfl⟩ := h
      rfl
  | union kind variants => exact absurd rfl (hunion kind variants)
  | reference name => exact absurd rfl (hreference name)

mutual

/-- A node leads to the model that its type refers to. -/
theorem leadsTo_of_schemaType (hnames : Unambiguous scope.registry.className?) :
    ∀ (node : SchemaNode) (location : String) (t : TypeDescriptor),
    Gives (scope.schemaType node location) t → t.reference = some key → node.LeadsTo key
  | ⟨shape, metadata⟩, location, t, h, hkey => by
      rw [schemaType] at h
      exact leadsTo_of_shapeType hnames shape metadata location t h hkey

theorem leadsTo_of_shapeType (hnames : Unambiguous scope.registry.className?) :
    ∀ (shape : Shape SchemaNode) (metadata : Metadata) (location : String) (t : TypeDescriptor),
      Gives (scope.shapeType shape location) t → t.reference = some key →
        SchemaNode.LeadsTo key ⟨shape, metadata⟩
  | .union kind variants, metadata, location, t, h, hkey => by
      simp only [shapeType, gives_bind] at h
      obtain ⟨types, htypes, h⟩ := h
      obtain ⟨hne, hall⟩ := (typesTo_of_gives h).reference hnames
        (variantTypes_current variants _ _ types htypes) hkey
      refine .union kind metadata ?_ (leadsTo_of_variantTypes hnames variants _ _ types htypes hall)
      rintro rfl
      rw [variantTypes, gives_pure] at htypes
      exact hne htypes.symm
  | .reference name, metadata, location, t, h, hkey => by
      rw [shapeType, gives_located] at h
      obtain ⟨className, -, rfl⟩ := referenceType_eq_ok h
      obtain rfl : name = key := Option.some.inj hkey
      exact .reference metadata
  | .scalar schema, metadata, location, t, h, hkey => by
      rw [shapeType_reference_eq_none (by simp) (by simp) h] at hkey
      cases hkey
  | .array items, metadata, location, t, h, hkey => by
      rw [shapeType_reference_eq_none (by simp) (by simp) h] at hkey
      cases hkey
  | .map values, metadata, location, t, h, hkey => by
      rw [shapeType_reference_eq_none (by simp) (by simp) h] at hkey
      cases hkey
  | .object schema, metadata, location, t, h, hkey => by
      rw [shapeType_reference_eq_none (by simp) (by simp) h] at hkey
      cases hkey

theorem leadsTo_of_variantTypes (hnames : Unambiguous scope.registry.className?) :
    ∀ (nodes : List SchemaNode) (location : String) (place : Nat) (types : List TypeDescriptor),
      Gives (scope.variantTypes nodes location place) types →
        (∀ u ∈ types, u.reference = some key) → ∀ v ∈ nodes, v.LeadsTo key
  | [], location, place, types, h, hkey => by simp
  | node :: nodes, location, place, types, h, hkey => by
      simp only [variantTypes, gives_bind, gives_pure] at h
      obtain ⟨first, hfirst, rest, hrest, rfl⟩ := h
      obtain ⟨hfirstKey, hrestKey⟩ := List.forall_mem_cons.1 hkey
      exact List.forall_mem_cons.2 ⟨leadsTo_of_schemaType hnames node _ first hfirst hfirstKey,
        leadsTo_of_variantTypes hnames nodes _ _ rest hrest hrestKey⟩

end

/-- The types of the variants of a union are those of its nodes, as many as there are. -/
lemma variantTypes_cases {nodes : List SchemaNode} {location : String} {place : Nat}
    {types : List TypeDescriptor} (h : Gives (scope.variantTypes nodes location place) types) :
    List.Forall₂ (fun node t => ∃ location, Gives (scope.schemaType node location) t) nodes
      types := by
  rw [variantTypes_eq_mapM, gives_mapM] at h
  rw [← List.zipIdx_map_fst place nodes, List.forall₂_map_left_iff]
  exact h.imp fun e t ht => ⟨_, ht⟩

/-- The type of a node that leads to a model is that of the model. -/
lemma schemaType_of_leadsTo {node : SchemaNode} (h : node.LeadsTo key) (location : String)
    (t : TypeDescriptor) (hgives : Gives (scope.schemaType node location) t) :
    ∃ className, scope.registry.className? key = some className ∧ t = .model key className := by
  induction h generalizing location t with
  | reference metadata => exact schemaType_of_reference rfl hgives
  | @union kind variants metadata hne hvariants ih =>
    simp only [schemaType, shapeType, gives_bind] at hgives
    obtain ⟨types, htypes, hgives⟩ := hgives
    have hall := variantTypes_cases htypes
    have hmodel : ∀ u ∈ types,
        ∃ className, scope.registry.className? key = some className ∧ u = .model key className := by
      intro u hu
      obtain ⟨node, hnode, place, hu⟩ := exists_left_of_forall₂ hall hu
      exact ih node hnode place u hu
    cases typesTo_of_gives hgives with
    | none => exact absurd (List.forall₂_nil_right_iff.1 hall) hne
    | sole hsame => exact hmodel _ List.mem_cons_self
    | several ht hu hdiffer =>
      obtain ⟨className, hname, rfl⟩ := hmodel _ ht
      obtain ⟨className', hname', rfl⟩ := hmodel _ hu
      rw [Option.some.inj (hname.symm.trans hname'), TypeDescriptor.sameType_refl] at hdiffer
      cases hdiffer

/-- **The type of a node refers to a model just when the node leads there.** -/
theorem schemaType_reference_iff (hnames : Unambiguous scope.registry.className?)
    {node : SchemaNode} {location : String} {t : TypeDescriptor}
    (h : Gives (scope.schemaType node location) t) :
    t.reference = some key ↔ node.LeadsTo key := by
  constructor
  · exact leadsTo_of_schemaType hnames node location t h
  · intro hleads
    obtain ⟨className, -, rfl⟩ := schemaType_of_leadsTo hleads location t h
    rfl

/-! ## Bodies -/

variable {operationId : String} {spec : RequestBodySpec} {body : PropertyDescriptor × Bool}

lemma body_type_eq (h : Gives (scope.body operationId spec) body) :
    ∃ t, Gives (scope.schemaType spec.schema (argumentLocation operationId bodyName)) t ∧
      body.1.type = (if isBytesBody t then .primitive .bytes else t) ∧
      body.2 = isBytesBody t := by
  obtain ⟨t, ht, h⟩ := gives_bind.1 h
  refine ⟨t, ht, ?_, ?_⟩ <;> rw [← gives_pure.1 h]

/-- A body counts as one of bytes when its type is. -/
lemma body_isBytes_iff (h : Gives (scope.body operationId spec) body) :
    body.2 = true ↔ body.1.type.asPrimitive = some .bytes := by
  obtain ⟨t, -, htype, hbytes⟩ := body_type_eq h
  rw [hbytes, htype]
  by_cases hb : isBytesBody t = true
  · rw [if_pos hb]
    exact iff_of_true hb rfl
  · have hnot : t.asPrimitive ≠ some .bytes := fun heq => hb (by simp [isBytesBody, heq])
    rw [if_neg hb]
    exact iff_of_false hb hnot

/-- The body of an operation is never taken as any value. -/
lemma body_isDynamic (h : Gives (scope.body operationId spec) body) :
    body.1.type.isDynamic = false := by
  obtain ⟨t, -, htype, -⟩ := body_type_eq h
  rw [htype]
  by_cases hb : isBytesBody t = true
  · rw [if_pos hb]
    rfl
  · rw [if_neg hb, Bool.eq_false_iff]
    exact fun hdynamic => hb (by simp [isBytesBody, hdynamic])

/-- The type of a body refers to a model just when its schema leads there. -/
lemma body_reference_iff (hnames : Unambiguous scope.registry.className?)
    (h : Gives (scope.body operationId spec) body) :
    body.1.type.reference = some key ↔ spec.schema.LeadsTo key := by
  obtain ⟨t, ht, htype, -⟩ := body_type_eq h
  rw [← schemaType_reference_iff hnames ht, htype]
  by_cases hb : isBytesBody t = true
  · rw [if_pos hb]
    refine iff_of_false (fun h => by cases h) fun hkey => ?_
    -- the type of a model is not taken as bytes
    obtain ⟨className, hname, rfl⟩ :=
      schemaType_of_leadsTo ((schemaType_reference_iff hnames ht).1 hkey) _ t ht
    rw [isBytesBody_model (hnames.legal hname)] at hb
    cases hb
  · rw [if_neg hb]

/-- The models that a body leads to are registered. -/
lemma body_className? (h : Gives (scope.body operationId spec) body)
    (hleads : spec.schema.LeadsTo key) : scope.registry.className? key ≠ none := by
  obtain ⟨t, ht, -, -⟩ := body_type_eq h
  obtain ⟨className, hname, -⟩ := schemaType_of_leadsTo hleads _ t ht
  rw [hname]
  exact Option.some_ne_none className

end Scope

/-! ## The type of any value -/

namespace TypeDescriptor

lemma isDynamic_model {key className : String} (h : Name.Legal className) :
    (model key className).isDynamic = false :=
  beq_eq_false_iff_ne.2 (ne_primitive_of_legal h .value)

lemma isDynamic_listOf (t : TypeDescriptor) : (listOf t).isDynamic = false :=
  beq_eq_false_iff_ne.2 (containerName_ne_value "Vec<" t.name)

lemma isDynamic_mapOf (t : TypeDescriptor) : (mapOf t).isDynamic = false :=
  beq_eq_false_iff_ne.2 (containerName_ne_value "HashMap<String, " t.name)

end TypeDescriptor

/-- A type is that of any value after relabelling when it was before, or when it leads to a model
that has no class name any more. -/
lemma isDynamic_relabelType_iff {classNames classNames' : String → Option String}
    {t : TypeDescriptor} (ht : t.Current classNames) (hnames : Unambiguous classNames)
    (hnames' : Unambiguous classNames') :
    (relabelType classNames' t).isDynamic = true ↔
      t.isDynamic = true ∨ ∃ key, t.reference = some key ∧ classNames' key = none := by
  cases ht with
  | primitive p format synthesized =>
    refine ⟨Or.inl, fun h => h.elim id ?_⟩
    rintro ⟨key, ⟨⟩, -⟩
  | @model key className hname =>
    rw [TypeDescriptor.relabelType_model, TypeDescriptor.isDynamic_model (hnames.legal hname)]
    cases hkey : classNames' key with
    | none => exact iff_of_true rfl (Or.inr ⟨key, rfl, hkey⟩)
    | some className' =>
      have hmodel : (TypeDescriptor.model key className').isDynamic = false :=
        TypeDescriptor.isDynamic_model (hnames'.legal hkey)
      refine iff_of_false (Bool.eq_false_iff.1 hmodel) ?_
      rintro (⟨⟨⟩⟩ | ⟨_, ⟨⟩, hnone⟩)
      rw [hkey] at hnone
      cases hnone
  | listOf h =>
    rw [TypeDescriptor.relabelType_listOf, TypeDescriptor.isDynamic_listOf,
      TypeDescriptor.isDynamic_listOf]
    simp [TypeDescriptor.listOf]
  | mapOf h =>
    rw [TypeDescriptor.relabelType_mapOf, TypeDescriptor.isDynamic_mapOf,
      TypeDescriptor.isDynamic_mapOf]
    simp [TypeDescriptor.mapOf]

/-! ## Facts -/

/-- **What a fact says of an operation** that the document describes with some metadata. -/
def OperationDescriptor.Fact (metadata : Metadata) (o : OperationDescriptor) : Extension → Prop
  | .bodyBytes => ∃ b ∈ o.body, b.type.asPrimitive = some .bytes
  | .perPage =>
    (∃ p ∈ o.queryParams, p.baseName = "per_page") ∧ ∃ p ∈ o.queryParams, p.baseName = "page"
  | .optionalQueryParams => ∀ p ∈ o.queryParams, p.required = false
  | .stringParams => ∃ p ∈ o.queryParams,
    p.type.asPrimitive = some .string ∨ p.type.asPrimitive = some .uuid
  | .emptyDefault => ∀ r ∈ o.responses, r.isDefault = false
  | .previews => Scope.hasPreviews metadata = true
  | _ => False

/-- **The facts of an operation are right when it is made.** -/
lemma Scope.operation_flagged_iff [Spelling] {scope : Scope} {spec : OperationSpec}
    {o : OperationDescriptor} (h : Gives (scope.operation spec) o) (fact : Extension) :
    o.extensions.isFlagged fact.key = true ↔ o.Fact spec.metadata fact := by
  obtain ⟨parameters, body, responses, -, hbody, -, rfl⟩ := operation_eq h
  have hbytes : body.any (·.2) = true ↔
      ∃ b ∈ body.map (·.1), b.type.asPrimitive = some .bytes := by
    cases hmade : body with
    | none => simp
    | some b =>
      obtain ⟨spec, -, hb⟩ := exists_of_rel hbody hmade
      simp [body_isBytes_iff hb]
  simp only [operationExtensions, Extensions.isFlagged_flagIf, Extensions.isFlagged_nil]
  cases fact <;> simp [OperationDescriptor.Fact, hbytes, isTextParam]

namespace OperationDescriptor

variable {o : OperationDescriptor} {classNames : String → Option String}

lemma type_mem_types_of_body {b : PropertyDescriptor} (hb : b ∈ o.body) : b.type ∈ o.types := by
  rw [types, List.append_assoc]
  exact List.mem_append_left _ (List.mem_flatMap.2 ⟨b, Option.mem_toList.2 hb, b.type_mem_types⟩)

lemma type_mem_types_of_query {p : ParameterDescriptor} (hp : p ∈ o.queryParams) :
    p.type ∈ o.types := by
  rw [types]
  refine List.mem_append_left _ (List.mem_append_right _ (List.mem_map_of_mem ?_))
  simp [parameters, hp]

/-- **The facts of an operation stay right** when the names of its types are made anew. -/
lemma fact_relabel (hcurrent : ∀ t ∈ o.types, t.Current classNames)
    (classNames' : String → Option String) (metadata : Metadata) (fact : Extension) :
    (o.relabel classNames').Fact metadata fact ↔ o.Fact metadata fact := by
  cases fact with
  | bodyBytes =>
    have hbytes : ∀ b ∈ o.body, (relabelType classNames' b.type).asPrimitive = some .bytes ↔
        b.type.asPrimitive = some .bytes := fun b hb =>
      (hcurrent _ (type_mem_types_of_body hb)).asPrimitive_relabelType _ (by decide)
    simp only [Fact, relabel, mapTypes, Option.mem_def, Option.map_eq_some_iff,
      exists_exists_and_eq_and, PropertyDescriptor.type_mapTypes]
    exact exists_congr fun b => and_congr_right fun hb => hbytes b hb
  | stringParams =>
    have htext : ∀ p ∈ o.queryParams, ∀ q : Primitive, q ≠ .value →
        ((relabelType classNames' p.type).asPrimitive = some q ↔ p.type.asPrimitive = some q) :=
      fun p hp q hq => (hcurrent _ (type_mem_types_of_query hp)).asPrimitive_relabelType _ hq
    simp only [Fact, relabel, mapTypes, List.mem_map, exists_exists_and_eq_and]
    exact exists_congr fun p => and_congr_right fun hp =>
      or_congr (htext p hp _ (by decide)) (htext p hp _ (by decide))
  | _ => simp [Fact, relabel, mapTypes]

end OperationDescriptor

/-! ## Page numbers -/

/-- The type of page numbers and page sizes. -/
def OperationDescriptor.PagesTyped (o : OperationDescriptor) : Prop :=
  ∀ p ∈ o.queryParams, p.baseName = "per_page" ∨ p.baseName = "page" →
    p.type = .primitive (.integer .unsigned .bits16)

lemma Scope.operation_pagesTyped [Spelling] {scope : Scope} {spec : OperationSpec}
    {o : OperationDescriptor} (h : Gives (scope.operation spec) o) : o.PagesTyped := by
  obtain ⟨parameters, -, -, -, -, -, rfl⟩ := operation_eq h
  intro p hp hname
  obtain ⟨p, -, rfl⟩ := List.mem_map.1 hp
  by_cases hpaging : isPaging p = true
  · rw [if_pos hpaging]
    rfl
  · rw [if_neg hpaging] at hname
    exact absurd (by simpa [isPaging] using hname) hpaging

/-- Page numbers keep their type when names are made anew. -/
lemma OperationDescriptor.PagesTyped.relabel {o : OperationDescriptor} (h : o.PagesTyped)
    (classNames : String → Option String) : (o.relabel classNames).PagesTyped := by
  intro _ hrelabelled hname
  obtain ⟨p, hp, rfl⟩ := List.mem_map.1 hrelabelled
  show relabelType classNames p.type = _
  rw [h p hp hname]
  rfl

/-! ## Whole results -/

/-- **An operation of a result tells the truth**: its facts are right, page numbers have their type,
and its body has the type of any value just when it leads to a model that was left out. -/
structure OperationSpec.ToldTruly (spec : OperationSpec) (document : ApiDocument) (api : TypedApi)
    (o : OperationDescriptor) : Prop where
  flagged_iff : ∀ fact : Extension, o.extensions.isFlagged fact.key = true ↔
    o.Fact spec.metadata fact
  pagesTyped : o.PagesTyped
  body_isDynamic_iff : ∀ b ∈ o.body, ∃ body ∈ spec.requestBody, (b.type.isDynamic = true ↔
    ∃ key ∈ Members.names document.models, body.schema.LeadsTo key ∧
      key ∉ api.models.map (·.2.key))

namespace ApiDocument.Run

variable {document : ApiDocument} {config : Config} {parts : ResolvedDocument} {api : TypedApi}
  {statistics : Statistics}

lemma body_isDynamic_iff [Spelling] (run : document.Run config parts api statistics)
    {registry : Registry} (hnames : registry.className? = parts.registry.className?)
    {operationId : String} {spec : RequestBodySpec} {body : PropertyDescriptor × Bool}
    (h : Gives (Scope.body ⟨registry, config⟩ operationId spec) body) :
    (relabelType (parts.settled document config).registry.className? body.1.type).isDynamic =
        true ↔
      ∃ key ∈ Members.names document.models, spec.schema.LeadsTo key ∧
        key ∉ api.models.map (·.2.key) := by
  have hunambiguous : Unambiguous registry.className? := hnames ▸ run.unambiguous_parts
  have hcurrent : body.1.type.Current registry.className? :=
    (PropertyDescriptor.current_iff.1 (Scope.body_current h)).1
  rw [isDynamic_relabelType_iff hcurrent hunambiguous run.unambiguous_settled,
    Scope.body_isDynamic h]
  simp only [Scope.body_reference_iff hunambiguous h, Bool.false_eq_true, false_or]
  refine exists_congr fun key => ?_
  rw [← run.className?_isSome_iff, Option.not_isSome_iff_eq_none]
  constructor
  · rintro ⟨hleads, hgone⟩
    refine ⟨?_, hleads, hgone⟩
    have hregistered := Scope.body_className? h hleads
    rw [hnames, run.className?_parts] at hregistered
    by_contra hkey
    exact hregistered (Registry.className?_eq_none.2 (Registry.mem_keys_ofDocument.not.2 hkey))
  · exact And.right

end ApiDocument.Run

/-- **The facts of the operations of a result are right.** -/
theorem operations_truthful [Spelling] {document : ApiDocument} {config : Config} {api : TypedApi}
    {statistics : Statistics} (h : document.resolve config = .ok (api, statistics)) :
    ∀ o ∈ api.operations, ∃ spec ∈ document.operations, spec.Carried config o ∧
      spec.ToldTruly document api o := by
  obtain ⟨parts, run⟩ := ApiDocument.exists_run h
  intro o ho
  obtain ⟨registry, spec, made, hnames, hspec, hmade, rfl⟩ := run.exists_operation ho
  refine ⟨spec, hspec, (Scope.operation_carried hmade).relabel _, ?_, ?_, ?_⟩
  · intro fact
    rw [OperationDescriptor.fact_relabel (Scope.operation_current hmade)]
    exact Scope.operation_flagged_iff hmade fact
  · exact (Scope.operation_pagesTyped hmade).relabel _
  · intro b hb
    obtain ⟨-, body, -, -, hbody, -, heq, -⟩ := Scope.operation_cases hmade
    obtain ⟨b', hb', rfl⟩ := Option.map_eq_some_iff.1 hb
    obtain ⟨p, hp, rfl⟩ := Option.map_eq_some_iff.1 (heq.symm.trans hb')
    obtain ⟨bodySpec, hbodySpec, hp⟩ := exists_of_rel hbody hp
    refine ⟨bodySpec, hbodySpec, ?_⟩
    rw [PropertyDescriptor.type_mapTypes]
    exact run.body_isDynamic_iff hnames hp

/-- A document with a body that leads to a model without a name, one of bytes, and one of a list of
bytes, and with parameters that tell of pages. -/
def ApiDocument.uploads : ApiDocument :=
  { title := "Uploads"
    version := "1"
    models :=
      [("items_post_body", { schema := ⟨.union .oneOf [⟨.scalar { kind := .string }, []⟩,
          ⟨.scalar { kind := .integer }, []⟩], []⟩, origin := .requestBody })]
    operations :=
      [{ path := "/items"
         method := "post"
         parameters :=
           [{ name := "page", location := .query, schema := ⟨.scalar { kind := .string }, []⟩ },
             { name := "per_page", location := .query
               schema := ⟨.reference "items_post_body", []⟩ }]
         requestBody := some { schema := ⟨.union .anyOf [⟨.reference "items_post_body", []⟩], []⟩ }
         responses := [("default", {})] },
        { path := "/files"
          method := "put"
          parameters :=
            [{ name := "name", location := .query, required := true
               schema := ⟨.scalar { kind := .string, format := some "uuid" }, []⟩ }]
          requestBody := some { schema := ⟨.scalar
            { kind := .string, format := some "binary" }, []⟩ }
          responses := [("200", {})] },
        { path := "/files"
          method := "post"
          requestBody := some { schema := ⟨.array (some ⟨.scalar
            { kind := .integer, minimum := some 0, maximum := some 255 }, []⟩), []⟩ } }] }

lemma ApiDocument.exists_result_uploads : ∃ api statistics,
    uploads.resolve {} = .ok (api, statistics) ∧
      api.operations.map (fun o => (o.body.toList.map (·.type.name), o.extensions.map (·.1))) =
        [(["Value"], ["x-codegen-has-optional-query-params", "x-codegen-impl-per-page"]),
          (["Vec<u8>"], ["x-codegen-body-bytes", "x-codegen-has-string-params",
            "x-codegen-response-empty-default"]),
          (["Vec<u8>"], ["x-codegen-has-optional-query-params",
            "x-codegen-response-empty-default"])] :=
  exists_result_of (by decide +kernel)

theorem uploads_operations_truthful : ∃ api statistics,
    ApiDocument.uploads.resolve {} = .ok (api, statistics) ∧
      api.operations.map (fun o => o.body.toList.map (·.type.name)) =
        [["Value"], ["Vec<u8>"], ["Vec<u8>"]] ∧
      ∀ o ∈ api.operations, ∃ spec ∈ ApiDocument.uploads.operations, spec.Carried {} o ∧
        spec.ToldTruly ApiDocument.uploads api o := by
  obtain ⟨api, statistics, h, hview⟩ := ApiDocument.exists_result_uploads
  have hbodies := congrArg (List.map Prod.fst) hview
  rw [List.map_map] at hbodies
  exact ⟨api, statistics, h, hbodies, operations_truthful h⟩

end ApiTypes
