import ApiTypes.Document.Basic
import ApiTypes.Resolution.Property
import Mathlib.Tactic.Lemma

/-!
# All nodes of a document

The schemas of a document are trees, and what is said of a document's references or of its integers
is said of the nodes in all of these trees, whether a run comes across them or not.

* `SchemaNode.nodes` — a node and all nodes below it.
* `OperationSpec.nodes`, `ApiDocument.nodes` — the nodes of operations and documents.
* `nodes_subset_of_…` — what a run takes out of a node is below it.
-/

namespace ApiTypes

/-! ## The nodes of a schema -/

mutual

/-- **The nodes of a schema**: the node itself, and all nodes below it. -/
def SchemaNode.nodes : SchemaNode → List SchemaNode
  | ⟨shape, metadata⟩ => ⟨shape, metadata⟩ :: shape.nodesBelow
termination_by structural node => node

/-- The nodes below a shape. -/
def Shape.nodesBelow : Shape SchemaNode → List SchemaNode
  | .array (some items) => items.nodes
  | .map (.schema values) => values.nodes
  | .object ⟨properties, _, some (.schema values)⟩ => nodesOfProperties properties ++ values.nodes
  | .object ⟨properties, _, _⟩ => nodesOfProperties properties
  | .union _ variants => nodesOfAll variants
  | _ => []
termination_by structural shape => shape

/-- The nodes of the schemas of properties. -/
def nodesOfProperties : List (String × SchemaNode) → List SchemaNode
  | [] => []
  | (_, node) :: rest => node.nodes ++ nodesOfProperties rest
termination_by structural properties => properties

/-- The nodes of several schemas. -/
def nodesOfAll : List SchemaNode → List SchemaNode
  | [] => []
  | node :: rest => node.nodes ++ nodesOfAll rest
termination_by structural nodes => nodes

end

variable {node : SchemaNode}

lemma SchemaNode.nodes_eq (node : SchemaNode) : node.nodes = node :: node.shape.nodesBelow := by
  cases node
  rfl

lemma SchemaNode.mem_nodes_self (node : SchemaNode) : node ∈ node.nodes := by
  rw [nodes_eq]
  exact List.mem_cons_self

lemma nodesBelow_subset (node : SchemaNode) : node.shape.nodesBelow ⊆ node.nodes := by
  rw [SchemaNode.nodes_eq]
  exact List.subset_cons_self _ _

lemma nodes_subset_flatMap {α : Type} {f : α → List SchemaNode} {xs : List α} {a : α}
    (ha : a ∈ xs) : f a ⊆ xs.flatMap f :=
  fun _ hnode => List.mem_flatMap.2 ⟨a, ha, hnode⟩

lemma nodes_subset_nodesOfProperties {properties : List (String × SchemaNode)}
    {e : String × SchemaNode} (he : e ∈ properties) : e.2.nodes ⊆ nodesOfProperties properties := by
  induction properties with
  | nil => cases he
  | cons first rest ih =>
    rw [nodesOfProperties]
    rcases List.mem_cons.1 he with rfl | he
    · exact List.subset_append_left _ _
    · exact List.subset_append_of_subset_right _ (ih he)

lemma nodes_subset_nodesOfAll {variants : List SchemaNode} {child : SchemaNode}
    (h : child ∈ variants) : child.nodes ⊆ nodesOfAll variants := by
  induction variants with
  | nil => cases h
  | cons variant variants ih =>
    rw [nodesOfAll]
    rcases List.mem_cons.1 h with rfl | h
    · exact List.subset_append_left _ _
    · exact List.subset_append_of_subset_right _ (ih h)

/-! ## What a run takes out of a node -/

lemma nodes_subset_of_union {kind : UnionKind} {variants : List SchemaNode}
    (h : node.shape = .union kind variants) : nodesOfAll variants ⊆ node.nodes := by
  have hbelow := nodesBelow_subset node
  rwa [h] at hbelow

lemma nodes_subset_of_object {schema : ObjectSchema} (h : node.shape = .object schema) :
    nodesOfProperties schema.properties ⊆ node.nodes := by
  have hbelow := nodesBelow_subset node
  rw [h] at hbelow
  refine List.Subset.trans ?_ hbelow
  obtain ⟨properties, required, _ | _ | values⟩ := schema
  · exact List.Subset.refl _
  · exact List.Subset.refl _
  · exact List.subset_append_left _ _

lemma SchemaNode.itemVariants?_eq_some {variants : List SchemaNode}
    (h : node.itemVariants? = some variants) :
    ∃ items kind, node.shape = .array (some items) ∧ items.shape = .union kind variants := by
  rw [itemVariants?] at h
  split at h
  · rename_i items hshape
    split at h
    · rename_i kind variants' hitems
      exact ⟨items, kind, hshape, Option.some.inj h ▸ hitems⟩
    · cases h
  · cases h

lemma nodes_subset_of_items {items : SchemaNode} (h : node.shape = .array (some items)) :
    items.nodes ⊆ node.nodes := by
  have hbelow := nodesBelow_subset node
  rwa [h] at hbelow

lemma nodes_subset_of_itemVariants? {variants : List SchemaNode}
    (h : node.itemVariants? = some variants) : nodesOfAll variants ⊆ node.nodes := by
  obtain ⟨items, kind, hshape, hitems⟩ := SchemaNode.itemVariants?_eq_some h
  exact List.Subset.trans (nodes_subset_of_union hitems) (nodes_subset_of_items hshape)

lemma nodes_subset_of_firstProperty? {e : String × SchemaNode} (h : node.firstProperty? = some e) :
    e.2.nodes ⊆ node.nodes := by
  rw [SchemaNode.firstProperty?] at h
  split at h
  · rename_i schema hshape
    exact List.Subset.trans (nodes_subset_nodesOfProperties (List.mem_of_head? h))
      (nodes_subset_of_object hshape)
  · cases h

lemma nodes_subset_of_mapLike? {schema : ObjectSchema} (h : node.mapLike? = some schema) :
    nodesOfProperties schema.properties ⊆ node.nodes := by
  rw [SchemaNode.mapLike?] at h
  split at h
  · rename_i schema' hshape
    split at h
    · obtain rfl := Option.some.inj h
      exact nodes_subset_of_object hshape
    · cases h
  · cases h

/-! ## The nodes of a document -/

/-- The nodes of the schema of a response, if it has one. -/
def ResponseSpec.nodes (r : ResponseSpec) : List SchemaNode :=
  r.schema.toList.flatMap (·.nodes)

/-- The nodes of an operation: those of its parameters, of its body and of its responses. -/
def OperationSpec.nodes (o : OperationSpec) : List SchemaNode :=
  o.parameters.flatMap (·.schema.nodes) ++ o.requestBody.toList.flatMap (·.schema.nodes) ++
    o.responses.flatMap (·.2.nodes)

namespace ApiDocument

/-- **The nodes of a document**: those of its models and of its operations. -/
def nodes (document : ApiDocument) : List SchemaNode :=
  document.models.flatMap (·.2.schema.nodes) ++ document.operations.flatMap (·.nodes)

/-- The names that references of the document lead to. -/
def referenceNames (document : ApiDocument) : List String :=
  document.nodes.filterMap (·.referenceName)

end ApiDocument

/-- The integer that a node is. -/
def SchemaNode.integer? (node : SchemaNode) : Option ScalarSchema :=
  match node.shape with
  | .scalar schema => if schema.kind = .integer then some schema else none
  | _ => none

/-- The integers of a document. -/
def ApiDocument.integers (document : ApiDocument) : List ScalarSchema :=
  document.nodes.filterMap (·.integer?)

end ApiTypes
