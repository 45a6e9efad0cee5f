import ApiTypes.Proofs.Decoding
import ApiTypes.Proofs.Nodes

/-!
# Schemas that are written and read

A node is written as one object: its shape under `type`, the parts of the shape beside it, and the
metadata.  Reading takes the metadata and the name of the shape out of the members, and what is left
are the parts of that shape alone, in the order of its fields.  So a node comes back once the nodes
right below it do, and these are nested less deep.

* `Shape.Child` — the nodes right below a shape; `depth_child_lt` — they are nested less deep.
* `SchemaNode.Exact` — a node whose free-form values come back as they were.
* `parts_shapeMembers` — the parts of a shape give the shape back.
* `decodes_ofSettled`, `decodes_ofTree` — **a node that is written and read is the same node.**
-/

namespace ApiTypes

open Source (Fault Tree)
open Source.Tree (Decodes Field Reads decodes_bool decodes_choice decodes_items decodes_signedWord
  decodes_sorted decodes_string ofJson ofJsonMembers settled_ofJson)

/-! ## The nodes right below a node -/

/-- A node right below a shape. -/
inductive Shape.Child : Shape SchemaNode → SchemaNode → Prop where
  | items (node : SchemaNode) : Child (.array (some node)) node
  | values (node : SchemaNode) : Child (.map (.schema node)) node
  | property {schema : ObjectSchema} {e : String × SchemaNode} (h : e ∈ schema.properties) :
      Child (.object schema) e.2
  | additional {schema : ObjectSchema} {node : SchemaNode}
      (h : schema.additional = some (.schema node)) : Child (.object schema) node
  | variant {kind : UnionKind} {variants : List SchemaNode} {node : SchemaNode}
      (h : node ∈ variants) : Child (.union kind variants) node

/-- The nodes of a child are below the shape. -/
lemma nodes_subset_of_child {shape : Shape SchemaNode} {child : SchemaNode}
    (h : shape.Child child) : child.nodes ⊆ shape.nodesBelow := by
  cases h with
  | items => exact List.Subset.refl _
  | values => exact List.Subset.refl _
  | @property schema e h =>
    refine List.Subset.trans (nodes_subset_nodesOfProperties h) ?_
    obtain ⟨properties, required, _ | _ | values⟩ := schema
    · exact List.Subset.refl _
    · exact List.Subset.refl _
    · exact List.subset_append_left _ _
  | @additional schema node h =>
    obtain ⟨properties, required, additional⟩ := schema
    obtain rfl : additional = some (.schema child) := h
    exact List.subset_append_right _ _
  | variant h => exact nodes_subset_nodesOfAll h

namespace SchemaNode

variable {node : SchemaNode} {shape : Shape SchemaNode}

lemma toJson_eq (node : SchemaNode) :
    node.toJson = .object (shapeMembers node.shape ++ metadataMember node.metadata) := by
  cases node
  rw [toJson]

lemma array_listToJson (nodes : List SchemaNode) :
    Json.array (listToJson nodes) = .arrayOf toJson nodes := by
  rw [Json.arrayOf]
  congr 1
  induction nodes with
  | nil => rfl
  | cons node nodes ih => rw [listToJson, ih, List.map_cons]

lemma object_propertiesToJson (properties : List (String × SchemaNode)) :
    Json.object (propertiesToJson properties) = .objectOf toJson properties := by
  rw [Json.objectOf]
  congr 1
  induction properties with
  | nil => rfl
  | cons e properties ih => rw [propertiesToJson, ih, List.map_cons]

/-- **A child is nested less deep than its parent.** -/
lemma depth_child_lt {child : SchemaNode} (h : node.shape.Child child) :
    child.toJson.depth < node.toJson.depth := by
  rw [toJson_eq node]
  generalize node.shape = shape at h
  cases h with
  | items => exact Json.depth_lt_object "items" (by simp [shapeMembers])
  | values => exact Json.depth_lt_object "values" (by simp [shapeMembers, extraToJson])
  | @property schema e h =>
    refine Json.depth_lt_of_entry "properties" h ?_
    rw [← object_propertiesToJson]
    simp [shapeMembers]
  | @additional schema node h =>
    refine Json.depth_lt_object "additional_properties" ?_
    obtain ⟨properties, required, additional⟩ := schema
    obtain rfl : additional = some (.schema child) := h
    simp [shapeMembers, additionalMember, extraToJson]
  | @variant kind variants node h =>
    refine Json.depth_lt_of_item "variants" h ?_
    rw [← array_listToJson]
    simp [shapeMembers]

end SchemaNode

/-! ## What comes back -/

/-- What a shape says of itself comes back as it was: free-form values do, and no two properties
share a name. -/
def Shape.Exact {Node : Type} : Shape Node → Prop
  | .scalar schema => ∀ value ∈ schema.enumValues, value.Exact
  | .object schema => (Members.names schema.properties).Nodup
  | _ => True

instance {Node : Type} (shape : Shape Node) : Decidable shape.Exact :=
  match shape with
  | .scalar schema => inferInstanceAs (Decidable (∀ value ∈ schema.enumValues, value.Exact))
  | .object schema => inferInstanceAs (Decidable (Members.names schema.properties).Nodup)
  | .array _ | .map _ | .union _ _ | .reference _ => isTrue trivial

/-- **What a node says of itself comes back as it was.** -/
structure SchemaNode.Exact (node : SchemaNode) : Prop where
  metadata : ExactMembers node.metadata
  shape : node.shape.Exact

instance (node : SchemaNode) : Decidable node.Exact :=
  decidable_of_iff (ExactMembers node.metadata ∧ node.shape.Exact)
    ⟨fun h => ⟨h.1, h.2⟩, fun h => ⟨h.metadata, h.shape⟩⟩

/-! ## The parts of a shape -/

/-- The shape of a shape, without its parts. -/
def Shape.tag {Node : Type} : Shape Node → ShapeTag
  | .scalar _ => .scalar
  | .array _ => .array
  | .map _ => .map
  | .object _ => .object
  | .union _ _ => .union
  | .reference _ => .reference

/-- The name of a shape. -/
def ShapeTag.name : ShapeTag → String
  | .scalar => "scalar"
  | .array => "array"
  | .map => "map"
  | .object => "object"
  | .union => "union"
  | .reference => "reference"

lemma ShapeTag.pick_name (tag : ShapeTag) : Tree.pick ShapeTag.names tag.name = .ok tag := by
  cases tag <;> rfl

lemma ScalarKind.pick_name (kind : ScalarKind) :
    Tree.pick ScalarKind.names kind.name = .ok kind := by
  cases kind <;> rfl

lemma UnionKind.pick_name (kind : UnionKind) : Tree.pick UnionKind.names kind.name = .ok kind := by
  cases kind <;> rfl

/-- The parts of a scalar give the scalar back. -/
lemma ScalarSchema.reads (schema : ScalarSchema) (h : ∀ value ∈ schema.enumValues, value.Exact) :
    Reads ScalarParts.read (["kind", "format", "minimum", "maximum", "exclusive_minimum",
      "exclusive_maximum", "enum_values"].map Field.optionally) schema.members {}
      ⟨some schema.kind, { schema with kind := .string }⟩ := by
  rw [← List.append_nil schema.members]
  simp only [ScalarSchema.members, List.append_assoc, List.cons_append, List.nil_append]
  refine .member (fun _ => rfl) (decodes_choice schema.kind.pick_name).2 ?_
  refine .memberIf (fun _ => rfl) rfl (fun text _ => decodes_string text) (fun _ _ => rfl) ?_
  refine .memberIf (fun _ => rfl) rfl (fun v _ => decodes_signedWord v) (fun _ _ => rfl) ?_
  refine .memberIf (fun _ => rfl) rfl (fun v _ => decodes_signedWord v) (fun _ _ => rfl) ?_
  refine .member (fun _ => rfl) (decodes_bool schema.exclusiveMinimum) ?_
  refine .member (fun _ => rfl) (decodes_bool schema.exclusiveMaximum) ?_
  exact .memberUnlessEmpty (fun _ => rfl) rfl (decodes_items h) .done

lemma decodes_extra {decode : Tree → Except Fault SchemaNode} {extra : Extra SchemaNode}
    (h : ∀ node, extra = .schema node → Decodes decode node.toJson node) :
    Decodes (Extra.ofTree decode) (SchemaNode.extraToJson extra) extra := by
  cases extra with
  | any allowed =>
    rw [SchemaNode.extraToJson]
    exact ⟨.bool allowed, rfl⟩
  | schema node =>
    rw [SchemaNode.extraToJson]
    obtain ⟨hreadable, hdecoded⟩ := h node rfl
    refine ⟨hreadable, ?_⟩
    rw [Extra.ofTree, hdecoded, SchemaNode.toJson_eq]
    rfl

namespace SchemaNode

variable {decode : Tree → Except Fault SchemaNode} {node : SchemaNode}

/-- The name of a shape stands before its parts. -/
lemma shapeMembers_eq (shape : Shape SchemaNode) :
    shapeMembers shape = ("type", .string shape.tag.name) :: (shapeMembers shape).tail := by
  cases shape with
  | array items => cases items <;> rfl
  | _ => rfl

lemma object_parts (schema : ObjectSchema) :
    (shapeMembers (.object schema)).tail =
      ("properties", Json.objectOf toJson schema.properties) ::
        ((if schema.required.isEmpty then [] else
            [("required", Json.arrayOf .string schema.required)]) ++
          (Json.memberIf "additional_properties" extraToJson schema.additional ++ [])) := by
  obtain ⟨properties, required, additional⟩ := schema
  have hadditional : additionalMember additional =
      Json.memberIf "additional_properties" extraToJson additional := by
    cases additional <;> rfl
  rw [shapeMembers, object_propertiesToJson, hadditional, List.append_nil]
  rfl

/-- **Members that tell the parts of a shape**: none of them is called like its name or like the
metadata, and the shape is read from them. -/
structure Parts (decode : Tree → Except Fault SchemaNode) (shape : Shape SchemaNode)
    (members : List (String × Json)) : Prop where
  readable : ∀ e ∈ members, e.2.Readable
  names : ∀ e ∈ members, e.1 ≠ "type" ∧ e.1 ≠ "metadata"
  decoded : Shape.ofMembers decode shape.tag (ofJsonMembers members) = .ok shape

/-- The fields of a shape tell its parts, when what they were read into is put together to it. -/
lemma parts_of_reads {σ : Type} {read : String → Tree → σ → Except Fault σ} {fields : List String}
    {members : List (String × Json)} {shape : Shape SchemaNode} {s s' : σ}
    {finish : σ → Except Fault (Shape SchemaNode)}
    (hnames : fields.Nodup) (hplain : "type" ∉ fields ∧ "metadata" ∉ fields)
    (hreads : Reads read (fields.map Field.optionally) members s s')
    (hshape : Shape.ofMembers decode shape.tag (ofJsonMembers members) =
      readShape fields read (ofJsonMembers members) s >>= finish)
    (hfinish : finish s' = .ok shape) : Parts decode shape members := by
  refine ⟨hreads.readable, ?_, ?_⟩
  · intro e he
    have hfield : e.1 ∈ fields := by simpa [Field.optionally] using hreads.names e he
    exact ⟨fun heq => hplain.1 (heq ▸ hfield), fun heq => hplain.2 (heq ▸ hfield)⟩
  · rw [hshape, readShape_of_reads hnames hreads]
    exact hfinish

/-- **The parts of a shape give the shape back** when the nodes right below it come back. -/
lemma parts_shapeMembers (hexact : node.Exact)
    (h : ∀ child, node.shape.Child child → Decodes decode child.toJson child) :
    Parts decode node.shape (shapeMembers node.shape).tail := by
  obtain ⟨-, hshape⟩ := hexact
  generalize node.shape = shape at h hshape
  cases shape with
  | scalar schema =>
    -- a scalar is put together before it becomes a shape, so what follows its fields is two steps
    exact parts_of_reads (by decide) (by decide) (schema.reads hshape) (bind_assoc _ _ _) rfl
  | array items =>
    have hitems : Decodes (Tree.option decode) (Json.orNull toJson items) items :=
      .orNull (fun item hitem => h item (hitem ▸ .items item)) (fun item _ => by cases item; rfl)
    have hreads : Reads (fun _ value _ => value.option decode) (["items"].map Field.optionally)
        (shapeMembers (.array items)).tail none items := by
      cases items <;> exact .present hitems.readable hitems.decoded .done
    exact parts_of_reads (by decide) (by decide) hreads rfl rfl
  | map values =>
    have hvalues : Decodes (Extra.ofTree decode) (extraToJson values) values :=
      decodes_extra fun node hnode => h node (hnode ▸ .values node)
    have hreads : Reads (fun _ value _ => some <$> Extra.ofTree decode value)
        (["values"].map Field.optionally) (shapeMembers (.map values)).tail none (some values) :=
      .member (fun _ => rfl) hvalues .done
    exact parts_of_reads (by decide) (by decide) hreads rfl rfl
  | object schema =>
    have hproperty : ∀ e ∈ schema.properties, Decodes decode e.2.toJson e.2 := fun e he =>
      h e.2 (.property he)
    have hextra : ∀ extra ∈ schema.additional,
        Decodes (Extra.ofTree decode) (extraToJson extra) extra := by
      intro extra hextra
      refine decodes_extra fun node hnode => h node (.additional ?_)
      rw [← hnode]
      exact hextra
    have hreads : Reads (readObjectField decode)
        (["properties", "required", "additional_properties"].map Field.optionally)
        (shapeMembers (.object schema)).tail {} schema := by
      rw [object_parts]
      refine .member (fun _ => rfl) (.ordered hshape hproperty) ?_
      refine .memberUnlessEmpty (fun _ => rfl) rfl (.list fun name _ => decodes_string name) ?_
      refine .memberIf (fun _ => rfl) rfl hextra ?_ .done
      rintro (allowed | node) -
      · rfl
      · cases node
        rfl
    exact parts_of_reads (by decide) (by decide) hreads rfl rfl
  | union kind variants =>
    have hreads : Reads (UnionParts.read decode) (["kind", "variants"].map Field.optionally)
        (shapeMembers (.union kind variants)).tail {} ⟨some kind, some variants⟩ := by
      rw [shapeMembers, array_listToJson]
      refine .member (fun _ => rfl) (decodes_choice kind.pick_name).2 ?_
      exact .member (fun _ => rfl) (.list fun node hnode => h node (.variant hnode)) .done
    exact parts_of_reads (by decide) (by decide) hreads rfl rfl
  | reference name =>
    have hreads : Reads (fun _ value _ => some <$> value.string)
        (["name"].map Field.optionally) (shapeMembers (.reference name)).tail none (some name) :=
      .member (fun _ => rfl) (decodes_string name) .done
    exact parts_of_reads (by decide) (by decide) hreads rfl rfl

/-! ## Taking a node apart -/

/-- Members that are no metadata are kept, latest first. -/
lemma gather_ofJsonMembers {prepare : Tree → Except Fault Tree} {members : List (String × Json)}
    (hnames : ∀ e ∈ members, e.1 ≠ "metadata")
    (hprepare : ∀ e ∈ members, prepare (ofJson e.2) = .ok (ofJson e.2))
    (more : List (Tree × Tree)) (parts : NodeParts) :
    NodeParts.gather prepare (ofJsonMembers members ++ more) parts =
      NodeParts.gather prepare more
        { parts with others := (ofJsonMembers members).reverse ++ parts.others } := by
  induction members generalizing parts with
  | nil => rfl
  | cons e members ih =>
    obtain ⟨hname, hnames⟩ := List.forall_mem_cons.1 hnames
    obtain ⟨hvalue, hprepare⟩ := List.forall_mem_cons.1 hprepare
    have hstep : ∀ rest, NodeParts.gather prepare ((.scalar (.string e.1), ofJson e.2) :: rest)
        parts = NodeParts.gather prepare rest
          { parts with others := (.scalar (.string e.1), ofJson e.2) :: parts.others } := by
      intro rest
      rw [NodeParts.gather]
      · simp only [NodeParts.gather.keyOf, pure_bind, hvalue]
        rfl
      · intro hkey
        exact hname (by simpa using hkey)
      · exact nofun
    rw [ofJsonMembers, List.cons_append, hstep, ih hnames hprepare]
    simp

/-- The members of a node are taken apart into its metadata and the members of its shape. -/
lemma gather_toJson {prepare : Tree → Except Fault Tree} {members : List (String × Json)}
    {metadata : Metadata} (hmetadata : ExactMembers metadata)
    (hnames : ∀ e ∈ members, e.1 ≠ "metadata")
    (hprepare : ∀ e ∈ members, prepare (ofJson e.2) = .ok (ofJson e.2)) :
    NodeParts.gather prepare (ofJsonMembers (members ++ metadataMember metadata)) {} =
      .ok ⟨if metadata.isEmpty then none else some metadata, (ofJsonMembers members).reverse⟩ := by
  have happend : ofJsonMembers (members ++ metadataMember metadata) =
      ofJsonMembers members ++ ofJsonMembers (metadataMember metadata) := by
    simp only [Tree.ofJsonMembers_eq_map, List.map_append]
  rw [happend, gather_ofJsonMembers hnames hprepare, List.append_nil, metadataMember]
  by_cases hempty : metadata.isEmpty
  · rw [if_pos hempty, if_pos hempty]
    rfl
  · rw [if_neg hempty, if_neg hempty]
    have hvalue : Metadata.ofTree (ofJson (.object metadata)) = .ok metadata :=
      (decodes_sorted hmetadata).decoded
    rw [ofJsonMembers, NodeParts.gather, hvalue]
    rfl

/-- The shape named first is the one that the members name. -/
lemma findTag_eq {members : List (String × Json)} (hnames : ∀ e ∈ members, e.1 ≠ "type")
    (tag : ShapeTag) :
    findTag (ofJsonMembers (("type", .string tag.name) :: members)) none = .ok tag := by
  have hrest : findTag (ofJsonMembers members) (some tag) = .ok tag := by
    induction members with
    | nil => rfl
    | cons e members ih =>
      obtain ⟨hname, hnames⟩ := List.forall_mem_cons.1 hnames
      have hother : isTypeKey (.scalar (.string e.1)) = false := by simpa [isTypeKey] using hname
      rw [ofJsonMembers, findTag, hother]
      exact ih hnames
  have htag : ShapeTag.ofTree (ofJson (.string tag.name)) = .ok tag := tag.pick_name
  rw [ofJsonMembers, findTag]
  simp only [isTypeKey, beq_self_eq_true, if_true, htag]
  exact hrest

lemma filter_ofJsonMembers {members : List (String × Json)} (hnames : ∀ e ∈ members, e.1 ≠ "type")
    (name : Json) :
    (ofJsonMembers (("type", name) :: members)).filter (fun member => !isTypeKey member.1) =
      ofJsonMembers members := by
  rw [ofJsonMembers, List.filter_cons_of_neg (by simp [isTypeKey]), List.filter_eq_self]
  rw [Tree.ofJsonMembers_eq_map, List.forall_mem_map]
  intro e he
  simpa [isTypeKey] using hnames e he

/-- **A node that is taken apart is put together again** when the nodes right below it come
back. -/
lemma ofParts_gather (prepare : Tree → Except Fault Tree) (hexact : node.Exact)
    (hprepare : ∀ j : Json, j.Readable → prepare (ofJson j) = .ok (ofJson j))
    (h : ∀ child, node.shape.Child child → Decodes decode child.toJson child) :
    node.toJson.Readable ∧
      (NodeParts.gather prepare
        (ofJsonMembers (shapeMembers node.shape ++ metadataMember node.metadata)) {} >>=
          ofParts decode) = .ok node := by
  obtain ⟨hreadable, hnames, hdecoded⟩ := parts_shapeMembers hexact h
  have hmembers : ∀ e ∈ shapeMembers node.shape, e.2.Readable := by
    rw [shapeMembers_eq]
    exact List.forall_mem_cons.2 ⟨.string _, hreadable⟩
  have hplain : ∀ e ∈ shapeMembers node.shape, e.1 ≠ "metadata" := by
    rw [shapeMembers_eq]
    exact List.forall_mem_cons.2 ⟨by simp, fun e he => (hnames e he).2⟩
  constructor
  · rw [toJson_eq]
    refine .object (List.forall_mem_append.2 ⟨hmembers, ?_⟩)
    rw [metadataMember]
    split
    · simp
    · refine List.forall_mem_singleton.2 (.object ?_)
      exact fun e he => (hexact.metadata.exact e he).readable
  · rw [gather_toJson hexact.metadata hplain fun e he => hprepare e.2 (hmembers e he)]
    have htag := findTag_eq (fun e he => (hnames e he).1) node.shape.tag
    have hfilter := filter_ofJsonMembers (fun e he => (hnames e he).1)
      (.string node.shape.tag.name)
    rw [← shapeMembers_eq] at htag hfilter
    have hmetadata : (if node.metadata.isEmpty then none else some node.metadata).getD [] =
        node.metadata := by
      split
      · rename_i hempty
        exact (List.isEmpty_iff.1 hempty).symm
      · rfl
    show ofParts decode _ = _
    simp only [ofParts, List.reverse_reverse, htag, hfilter, hmetadata]
    show (Shape.ofMembers decode node.shape.tag _ >>= _) = _
    rw [hdecoded]
    cases node
    rfl

/-- **A node that is read whole is the node that was written**, however many nodes may stand below
one another beyond those that do. -/
theorem decodes_ofSettled {depth : Nat} (hexact : ∀ below ∈ node.nodes, below.Exact)
    (hdepth : node.toJson.depth ≤ depth) : Decodes (ofSettled depth) node.toJson node := by
  induction depth generalizing node with
  | zero =>
    rw [toJson_eq, Json.depth] at hdepth
    omega
  | succ depth ih =>
    have hchildren : ∀ child, node.shape.Child child →
        Decodes (ofSettled depth) child.toJson child := by
      intro child hchild
      refine ih (fun below hbelow => hexact below ?_) ?_
      · exact nodesBelow_subset node (nodes_subset_of_child hchild hbelow)
      · have := depth_child_lt hchild
        omega
    obtain ⟨hreadable, hdecoded⟩ := ofParts_gather pure (hexact node node.mem_nodes_self)
      (fun _ _ => rfl) hchildren
    refine ⟨hreadable, ?_⟩
    rw [toJson_eq, ofJson, ofSettled]
    exact hdecoded

/-- **A node that is written and read is the same node.** -/
theorem decodes_ofTree (hexact : ∀ below ∈ node.nodes, below.Exact)
    (hdepth : node.toJson.depth ≤ greatestDepth) : Decodes ofTree node.toJson node := by
  have hchildren : ∀ child, node.shape.Child child →
      Decodes (ofSettled greatestDepth) child.toJson child := by
    intro child hchild
    refine decodes_ofSettled (fun below hbelow => hexact below ?_) ?_
    · exact nodesBelow_subset node (nodes_subset_of_child hchild hbelow)
    · have := depth_child_lt hchild
      omega
  obtain ⟨hreadable, hdecoded⟩ := ofParts_gather Tree.settled
    (hexact node node.mem_nodes_self) (fun j hj => settled_ofJson hj) hchildren
  refine ⟨hreadable, ?_⟩
  rw [toJson_eq, ofJson, ofTree]
  simp only [Tree.members, pure_bind]
  exact hdecoded

end SchemaNode

end ApiTypes
