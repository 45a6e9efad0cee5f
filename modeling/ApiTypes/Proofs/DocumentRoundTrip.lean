import ApiTypes.Proofs.Registration
import ApiTypes.Proofs.SchemaRoundTrip

/-!
# Documents that are written and read

A document is a record of records, down to its schemas.  Each of these records writes its members in
the order of its fields and leaves out only what it starts with when it is read, so it comes back
when its parts do.

* `ApiDocument.Exact` — a document whose free-form values come back as they were, and that has no
  name twice inside of its models and operations.
* `decodes_toJson` of each record — it comes back when it is not nested too deep.
* `ApiDocument.parse_toJson` — **a document that is written and read is the same document.**
-/

namespace ApiTypes

open Source (Fault Tree)
open Source.Tree (Decodes Reads decodes_bool decodes_choice decodes_sorted decodes_string)

/-! ## Parts of documents -/

lemma Origin.pick_name (origin : Origin) : Tree.pick Origin.names origin.name = .ok origin := by
  cases origin <;> rfl

lemma ParameterLocation.pick_name (location : ParameterLocation) :
    Tree.pick ParameterLocation.names location.name = .ok location := by
  cases location <;> rfl

/-- The metadata of a record comes back, as its last field. -/
lemma reads_metadata {σ : Type} {read : String → Tree → σ → Except Fault σ} {s s' : σ}
    {put : Metadata → σ} {metadata : Metadata} (h : ExactMembers metadata)
    (hread : ∀ tree, read "metadata" tree s = Metadata.ofTree tree >>= fun a => .ok (put a))
    (hnone : put [] = s) (hput : put metadata = s') :
    Reads read [.optionally "metadata"] (metadataMember metadata) s s' := by
  rw [← List.append_nil (metadataMember metadata), ← hput]
  exact .memberUnlessEmpty hread hnone (decodes_sorted h) .done

lemma ModelSpec.decodes_toJson {m : ModelSpec} (hexact : ∀ node ∈ m.schema.nodes, node.Exact)
    (hdepth : m.toJson.depth ≤ SchemaNode.greatestDepth) :
    Decodes ModelSpec.ofTree m.toJson m := by
  have hschema : m.schema.toJson.depth < m.toJson.depth :=
    Json.depth_lt_object "schema" (by simp)
  have hreads : Reads ModelParts.read [.required "schema", .optionally "origin"]
      [("schema", m.schema.toJson), ("origin", .string m.origin.name)] {}
      ⟨some m.schema, m.origin⟩ := by
    refine .member (fun _ => rfl) (SchemaNode.decodes_ofTree hexact (by omega)) ?_
    exact .member (fun _ => rfl) (decodes_choice m.origin.pick_name).1 .done
  exact (Decodes.record _ (by decide) hreads).bind rfl

lemma ParameterSpec.decodes_toJson {p : ParameterSpec}
    (hexact : ∀ node ∈ p.schema.nodes, node.Exact)
    (hdepth : p.toJson.depth ≤ SchemaNode.greatestDepth) :
    Decodes ParameterSpec.ofTree p.toJson p := by
  have hschema : p.schema.toJson.depth < p.toJson.depth :=
    Json.depth_lt_object "schema" (by simp)
  have hreads : Reads ParameterParts.read
      [.required "name", .required "in", .optionally "required", .required "schema"]
      [("name", .string p.name), ("in", .string p.location.name),
        ("required", .bool p.required), ("schema", p.schema.toJson)] {}
      ⟨some p.name, some p.location, p.required, some p.schema⟩ := by
    refine .member (fun _ => rfl) (decodes_string p.name) ?_
    refine .member (fun _ => rfl) (decodes_choice p.location.pick_name).1 ?_
    refine .member (fun _ => rfl) (decodes_bool p.required) ?_
    exact .member (fun _ => rfl) (SchemaNode.decodes_ofTree hexact (by omega)) .done
  exact (Decodes.record _ (by decide) hreads).bind rfl

lemma RequestBodySpec.decodes_toJson {b : RequestBodySpec} (hmetadata : ExactMembers b.metadata)
    (hexact : ∀ node ∈ b.schema.nodes, node.Exact)
    (hdepth : b.toJson.depth ≤ SchemaNode.greatestDepth) :
    Decodes RequestBodySpec.ofTree b.toJson b := by
  have hschema : b.schema.toJson.depth < b.toJson.depth :=
    Json.depth_lt_object "schema" (by simp)
  have hreads : Reads RequestBodyParts.read
      [.required "schema", .optionally "required", .optionally "metadata"]
      ([("schema", b.schema.toJson), ("required", .bool b.required)] ++
        metadataMember b.metadata) {} ⟨some b.schema, b.required, b.metadata⟩ := by
    refine .member (fun _ => rfl) (SchemaNode.decodes_ofTree hexact (by omega)) ?_
    refine .member (fun _ => rfl) (decodes_bool b.required) ?_
    exact reads_metadata hmetadata (fun _ => rfl) rfl rfl
  exact (Decodes.record _ (by decide) hreads).bind rfl

lemma ResponseSpec.decodes_toJson {r : ResponseSpec} (hmetadata : ExactMembers r.metadata)
    (hexact : ∀ node ∈ r.nodes, node.Exact)
    (hdepth : r.toJson.depth ≤ SchemaNode.greatestDepth) :
    Decodes ResponseSpec.ofTree r.toJson r := by
  have hschema : ∀ schema ∈ r.schema, Decodes SchemaNode.ofTree schema.toJson schema := by
    intro schema hmem
    have hnodes : schema.nodes ⊆ r.nodes := nodes_subset_flatMap (Option.mem_toList.2 hmem)
    have hless : (Json.orNull SchemaNode.toJson r.schema).depth < r.toJson.depth :=
      Json.depth_lt_object "schema" (by simp)
    rw [Option.mem_def.1 hmem] at hless
    exact SchemaNode.decodes_ofTree (fun node hnode => hexact node (hnodes hnode))
      (hless.le.trans hdepth)
  have hreads : Reads ResponseSpec.read
      [.optionally "schema", .optionally "description", .optionally "metadata"]
      ([("schema", Json.orNull SchemaNode.toJson r.schema)] ++
        Json.memberIf "description" .string r.description ++ metadataMember r.metadata) {} r := by
    rw [List.append_assoc]
    refine .member (fun _ => rfl) (.orNull hschema fun schema _ => by cases schema; rfl) ?_
    refine .memberIf (fun _ => rfl) rfl (fun text _ => decodes_string text) (fun _ _ => rfl) ?_
    exact reads_metadata hmetadata (fun _ => rfl) rfl rfl
  exact Decodes.record _ (by decide) hreads

/-! ## Operations -/

/-- **What an operation says of itself comes back as it was**: free-form values do, and no two
responses share a code. -/
structure OperationSpec.Exact (o : OperationSpec) : Prop where
  metadata : ExactMembers o.metadata
  body : ∀ b ∈ o.requestBody, ExactMembers b.metadata
  codes : (Members.names o.responses).Nodup
  responses : ∀ e ∈ o.responses, ExactMembers e.2.metadata

instance (o : OperationSpec) : Decidable o.Exact :=
  decidable_of_iff
    (ExactMembers o.metadata ∧ (∀ b ∈ o.requestBody, ExactMembers b.metadata) ∧
      (Members.names o.responses).Nodup ∧ ∀ e ∈ o.responses, ExactMembers e.2.metadata)
    ⟨fun h => ⟨h.1, h.2.1, h.2.2.1, h.2.2.2⟩,
      fun h => ⟨h.metadata, h.body, h.codes, h.responses⟩⟩

lemma OperationSpec.decodes_toJson {o : OperationSpec} (hexact : o.Exact)
    (hnodes : ∀ node ∈ o.nodes, node.Exact) (hdepth : o.toJson.depth ≤ SchemaNode.greatestDepth) :
    Decodes OperationSpec.ofTree o.toJson o := by
  obtain ⟨hmetadata, hbody, hcodes, hresponses⟩ := hexact
  have hparameters : ∀ p ∈ o.parameters, Decodes ParameterSpec.ofTree p.toJson p := by
    intro p hp
    refine ParameterSpec.decodes_toJson (fun node hnode => hnodes node ?_) ?_
    · exact List.mem_append_left _ (List.mem_append_left _ (nodes_subset_flatMap hp hnode))
    · have hless : p.toJson.depth < o.toJson.depth :=
        Json.depth_lt_of_item "parameters" hp (by simp)
      exact hless.le.trans hdepth
  have hbody : ∀ b ∈ o.requestBody, Decodes RequestBodySpec.ofTree b.toJson b := by
    intro b hb
    refine RequestBodySpec.decodes_toJson (hbody b hb) (fun node hnode => hnodes node ?_) ?_
    · exact List.mem_append_left _ (List.mem_append_right _
        (nodes_subset_flatMap (Option.mem_toList.2 hb) hnode))
    · have hless : (Json.orNull RequestBodySpec.toJson o.requestBody).depth < o.toJson.depth :=
        Json.depth_lt_object "request_body" (by simp)
      rw [Option.mem_def.1 hb] at hless
      exact hless.le.trans hdepth
  have hresponses : ∀ e ∈ o.responses, Decodes ResponseSpec.ofTree e.2.toJson e.2 := by
    intro e he
    refine ResponseSpec.decodes_toJson (hresponses e he) (fun node hnode => hnodes node ?_) ?_
    · exact List.mem_append_right _ (nodes_subset_flatMap he hnode)
    · have hless : e.2.toJson.depth < o.toJson.depth :=
        Json.depth_lt_of_entry "responses" he (by simp)
      exact hless.le.trans hdepth
  have hreads : Reads OperationParts.read
      [.optionally "operation_id", .required "path", .required "method", .optionally "tags",
        .optionally "parameters", .optionally "request_body", .optionally "responses",
        .optionally "metadata"]
      ([("operation_id", Json.orNull .string o.operationId), ("path", .string o.path),
        ("method", .string o.method), ("tags", Json.arrayOf .string o.tags),
        ("parameters", Json.arrayOf ParameterSpec.toJson o.parameters),
        ("request_body", Json.orNull RequestBodySpec.toJson o.requestBody),
        ("responses", Json.objectOf ResponseSpec.toJson o.responses)] ++
        metadataMember o.metadata) {}
      ⟨some o.path, some o.method, { o with path := "", method := "" }⟩ := by
    refine .member (fun _ => rfl) (.orNull (fun text _ => decodes_string text) fun _ _ => rfl) ?_
    refine .member (fun _ => rfl) (decodes_string o.path) ?_
    refine .member (fun _ => rfl) (decodes_string o.method) ?_
    refine .member (fun _ => rfl) (.list fun tag _ => decodes_string tag) ?_
    refine .member (fun _ => rfl) (.list hparameters) ?_
    refine .member (fun _ => rfl) (.orNull hbody fun _ _ => rfl) ?_
    refine .member (fun _ => rfl) (.ordered hcodes hresponses) ?_
    exact reads_metadata hmetadata (fun _ => rfl) rfl rfl
  exact (Decodes.record _ (by decide) hreads).bind rfl

/-! ## Documents -/

namespace ApiDocument

variable {document : ApiDocument}

/-- **A document that comes back as it was**: what its nodes and its operations say of themselves
does.  Names that stand in a map are distinct in every document that a program can hold, free-form
values stand in the order of their names, and their whole numbers fit a word; so what this asks for
is that no number among them has a fraction or an exponent. -/
structure Exact (document : ApiDocument) : Prop where
  nodes : ∀ node ∈ document.nodes, node.Exact
  operations : ∀ o ∈ document.operations, o.Exact

lemma decodes_toJson (hexact : document.Exact)
    (hdepth : document.toJson.depth ≤ SchemaNode.greatestDepth) :
    Decodes ApiDocument.ofTree document.toJson document := by
  obtain ⟨hnodes, hoperations⟩ := hexact
  have hmodels : ∀ e ∈ document.models, Decodes ModelSpec.ofTree e.2.toJson e.2 := by
    intro e he
    refine ModelSpec.decodes_toJson (fun node hnode => hnodes node ?_) ?_
    · exact List.mem_append_left _ (nodes_subset_flatMap (f := fun e => e.2.schema.nodes) he hnode)
    · have hless : e.2.toJson.depth < document.toJson.depth :=
        Json.depth_lt_of_entry "models" he (by simp)
      exact hless.le.trans hdepth
  have hoperations : ∀ o ∈ document.operations, Decodes OperationSpec.ofTree o.toJson o := by
    intro o ho
    refine OperationSpec.decodes_toJson (hoperations o ho) (fun node hnode => hnodes node ?_) ?_
    · exact List.mem_append_right _ (nodes_subset_flatMap ho hnode)
    · have hless : o.toJson.depth < document.toJson.depth :=
        Json.depth_lt_of_item "operations" ho (by simp)
      exact hless.le.trans hdepth
  have hreads : Reads ApiDocument.read
      [.optionally "title", .optionally "version", .optionally "models", .optionally "operations"]
      [("title", .string document.title), ("version", .string document.version),
        ("models", Json.objectOf ModelSpec.toJson document.models),
        ("operations", Json.arrayOf OperationSpec.toJson document.operations)] {} document := by
    refine .member (fun _ => rfl) (decodes_string document.title) ?_
    refine .member (fun _ => rfl) (decodes_string document.version) ?_
    refine .member (fun _ => rfl) (.distinct document.nodup_keys hmodels) ?_
    exact .member (fun _ => rfl) (.list hoperations) .done
  exact Decodes.record _ (by decide) hreads

/-- **A document that is written and read is the same document**, down to the order of its models,
properties and responses, on one line or over several, when its text nests no deeper than a text
may. -/
theorem parse_toJson (hexact : document.Exact)
    (hdepth : document.toJson.depth ≤ Json.greatestDepth) :
    Format.json.parse document.toJson.compact = .ok document ∧
      Format.json.parse document.toJson.pretty = .ok document := by
  have hnodes : Json.greatestDepth ≤ SchemaNode.greatestDepth := by decide
  obtain ⟨hreadable, hdecoded⟩ := decodes_toJson hexact (hdepth.trans hnodes)
  obtain ⟨hcompact, hpretty⟩ := Json.decodeJson_of_readable hreadable hdepth ApiDocument.ofTree
  simp only [Format.parse, hcompact, hpretty, hdecoded]
  exact ⟨rfl, rfl⟩

/-- A shop with metadata of several depths, undeclared properties of both kinds, and an operation
that leaves out what it may. -/
def bookShop : ApiDocument :=
  { title := "Books ✓"
    version := "2"
    models :=
      [("Book", ⟨⟨.object
          ⟨[("title", ⟨.scalar { kind := .string, enumValues := [.string "a\"b", .null] }, []⟩),
            ("pages", ⟨.scalar { kind := .integer, minimum := some (-1), exclusiveMaximum := true },
              [("x-unit", .string "page")]⟩),
            ("notes", ⟨.object ⟨[], [], some (.any false)⟩, []⟩)],
          ["title"], some (.schema ⟨.map (.any true), []⟩)⟩,
          [("x-shelf", .object [("row", .array [.number (.int 7), .bool true]), ("at", .null)]),
            ("x-size", .number (.int (-2)))]⟩, .declared⟩),
        ("Choice", ⟨⟨.union .anyOf [⟨.reference "Book", []⟩, ⟨.array none, []⟩,
          ⟨.array (some ⟨.map (.schema ⟨.reference "Book", []⟩), []⟩), []⟩], []⟩, .composed⟩)]
    operations :=
      [{ path := "/books"
         method := "post"
         tags := ["books"]
         parameters := [⟨"page", .query, true, ⟨.scalar { kind := .boolean }, []⟩⟩]
         requestBody := some ⟨⟨.reference "Book", []⟩, true, [("x-once", .bool true)]⟩
         responses := [("201", ⟨some ⟨.reference "Choice", []⟩, none, []⟩),
          ("404", ⟨none, some "no such shelf", []⟩)] }] }

/-- The books come back as they were. -/
theorem bookShop_parse_toJson : bookShop.Exact ∧ bookShop.toJson.depth ≤ Json.greatestDepth ∧
    Format.json.parse bookShop.toJson.compact = .ok bookShop ∧
    Format.json.parse bookShop.toJson.pretty = .ok bookShop := by
  have hnodes : ∀ node ∈ bookShop.nodes, node.Exact := by decide +kernel
  have hoperations : ∀ o ∈ bookShop.operations, o.Exact := by decide +kernel
  have hdepth : bookShop.toJson.depth ≤ Json.greatestDepth := by decide +kernel
  have hexact : bookShop.Exact := ⟨hnodes, hoperations⟩
  exact ⟨hexact, hdepth, parse_toJson hexact hdepth⟩

end ApiDocument

end ApiTypes
