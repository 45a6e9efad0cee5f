import ApiTypes.Descriptor.Json.Result
import ApiTypes.Proofs.DocumentRoundTrip
import ApiTypes.Proofs.Traversal

/-!
# Descriptors that are written and read

Types lie inside types and properties inside the unions of properties, so each of them comes back
when those inside it do, which are nested less deep.  Around them stand records of records up to the
whole result.

* `PropertyDescriptor.Exact`, `ModelDescriptor.Exact`, `TypedApi.Exact` — descriptors whose facts
  for the renderer come back as they were, and whose unions have no more variants than can be
  counted.
* `TypeDescriptor.decodes_toJson`, `PropertyDescriptor.decodes_toJson` — types and properties come
  back, at any depth that a text may have.
* `foldl_set` — flags come back as they were when each of them stands once, in its order.
* `TypedApi.decodes_toJson` — **a result comes back when all of it does.**
-/

namespace ApiTypes

open Source (Fault Tree)
open Source.Tree (Decodes Reads decodes_bool decodes_choice decodes_natWord decodes_sorted
  decodes_string)

/-- The facts for the renderer come back, as the last field of a record. -/
lemma reads_extensions {σ : Type} {read : String → Tree → σ → Except Fault σ} {s s' : σ}
    {put : Extensions → σ} {e : Extensions} (h : ExactMembers e)
    (hread : ∀ tree,
      read "vendor_extensions" tree s = Extensions.ofTree tree >>= fun a => .ok (put a))
    (hnone : put [] = s) (hput : put e = s') :
    Reads read [.optionally "vendor_extensions"] (extensionsMember e) s s' := by
  rw [← List.append_nil (extensionsMember e), ← hput]
  exact .memberUnlessEmpty hread hnone (decodes_sorted h) .done

/-! ## Types -/

namespace TypeDescriptor

lemma toJson_eq (t : TypeDescriptor) : t.toJson =
    .object (toJson.before t.name t.isContainer t.isMap t.isPrimitive t.isDisplayable t.format
      t.reference ++ (Json.memberIf "inner" toJson t.inner ++ toJson.after t.synthesized)) := by
  obtain ⟨_, _, _, _, _, _, _, _ | inner, _⟩ := t <;> rfl

/-- An inner type is nested less deep than the type around it. -/
lemma depth_inner_lt {t inner : TypeDescriptor} (h : t.inner = some inner) :
    inner.toJson.depth < t.toJson.depth := by
  rw [t.toJson_eq, h]
  exact Json.depth_lt_object "inner" (by simp [Json.memberIf])

lemma decodes_ofTreeWithin {depth : Nat} {t : TypeDescriptor} (h : t.toJson.depth ≤ depth) :
    Decodes (ofTreeWithin depth) t.toJson t := by
  induction depth generalizing t with
  | zero =>
    rw [toJson_eq, Json.depth] at h
    omega
  | succ depth ih =>
    have hinner : ∀ inner ∈ t.inner, Decodes (ofTreeWithin depth) inner.toJson inner := by
      intro inner hmem
      have hless := depth_inner_lt (Option.mem_def.1 hmem)
      exact ih (by omega)
    have hreads : Reads (Parts.read (ofTreeWithin depth)) fields
        (toJson.before t.name t.isContainer t.isMap t.isPrimitive t.isDisplayable t.format
          t.reference ++ (Json.memberIf "inner" toJson t.inner ++ toJson.after t.synthesized)) {}
        ⟨some t.name, some t.isContainer, some t.isMap, some t.isPrimitive, some t.isDisplayable,
          t.format, t.reference, t.inner, t.synthesized⟩ := by
      rw [toJson.before, toJson.after, List.append_assoc, List.append_assoc,
        ← List.append_nil (if t.synthesized then _ else _)]
      refine .member (fun _ => rfl) (decodes_string t.name) ?_
      refine .member (fun _ => rfl) (decodes_bool t.isContainer) ?_
      refine .member (fun _ => rfl) (decodes_bool t.isMap) ?_
      refine .member (fun _ => rfl) (decodes_bool t.isPrimitive) ?_
      refine .member (fun _ => rfl) (decodes_bool t.isDisplayable) ?_
      refine .memberIf (fun _ => rfl) rfl (fun text _ => decodes_string text) (fun _ _ => rfl) ?_
      refine .memberIf (fun _ => rfl) rfl (fun text _ => decodes_string text) (fun _ _ => rfl) ?_
      refine .memberIf (fun _ => rfl) rfl hinner (fun inner _ => by rw [toJson_eq]; rfl) ?_
      exact .memberWhen (fun _ => rfl) rfl .done
    have hrecord := Decodes.record "TypeDescriptor" (by decide) hreads
    rw [toJson_eq]
    refine ⟨hrecord.readable, ?_⟩
    rw [ofTreeWithin, hrecord.decoded]
    cases t
    rfl

/-- **A type that is written and read is the same type.** -/
lemma decodes_toJson {t : TypeDescriptor} (h : t.toJson.depth ≤ greatestNesting) :
    Decodes ofTree t.toJson t :=
  decodes_ofTreeWithin h

end TypeDescriptor

/-! ## Enums -/

lemma EnumVariant.decodes_toJson (v : EnumVariant) : Decodes ofTree v.toJson v := by
  have hreads : Reads (fun (name : String) (value : Tree) (s : Option String × Option String) => do
      let text ← value.string
      return if name = "name" then (some text, s.2) else (s.1, some text))
      [.required "name", .required "value"] [("name", .string v.name), ("value", .string v.value)]
      (none, none) (some v.name, some v.value) := by
    refine .member (fun _ => rfl) (decodes_string v.name) ?_
    exact .member (fun _ => rfl) (decodes_string v.value) .done
  exact (Decodes.record _ (by decide) hreads).bind rfl

lemma EnumDescriptor.decodes_toJson (e : EnumDescriptor) : Decodes ofTree e.toJson e := by
  have hreads : Reads EnumDescriptor.read [.required "name", .required "variants"]
      [("name", .string e.name), ("variants", Json.arrayOf EnumVariant.toJson e.variants)]
      (none, none) (some e.name, some e.variants) := by
    refine .member (fun _ => rfl) (decodes_string e.name) ?_
    exact .member (fun _ => rfl) (.list fun v _ => v.decodes_toJson) .done
  exact (Decodes.record _ (by decide) hreads).bind rfl

/-! ## Properties and unions -/

/-- **A property that comes back as it was**, with all properties inside it: its facts do, and the
variants of its union can be counted. -/
inductive PropertyDescriptor.Exact : PropertyDescriptor → Prop where
  | mk {p : PropertyDescriptor} (hextensions : ExactMembers p.extensions)
      (hcount : ∀ u ∈ p.union, u.variantCount < UInt64.size)
      (hvariants : ∀ u ∈ p.union, ∀ v ∈ u.variants, Exact v) : Exact p

/-- A union that comes back as it was. -/
structure UnionOf.Exact (u : UnionDescriptor) : Prop where
  count : u.variantCount < UInt64.size
  variants : ∀ v ∈ u.variants, v.Exact

lemma UnionOf.decodes_toJson {decode : Tree → Except Fault PropertyDescriptor}
    {u : UnionDescriptor} (hcount : u.variantCount < UInt64.size)
    (hvariants : ∀ v ∈ u.variants, Decodes decode v.toJson v) :
    Decodes (UnionOf.ofTreeWith decode) (UnionOf.toJson u) u := by
  have hreads : Reads (UnionDescriptorParts.read decode)
      [.required "variants", .required "is_displayable", .required "variant_count"]
      [("variants", Json.arrayOf PropertyDescriptor.toJson u.variants),
        ("is_displayable", .bool u.isDisplayable), ("variant_count", Json.ofNat u.variantCount)] {}
      ⟨some u.variants, some u.isDisplayable, some u.variantCount⟩ := by
    refine .member (fun _ => rfl) (.list hvariants) ?_
    refine .member (fun _ => rfl) (decodes_bool u.isDisplayable) ?_
    exact .member (fun _ => rfl) (decodes_natWord hcount) .done
  exact (Decodes.record _ (by decide) hreads).bind rfl

namespace PropertyDescriptor

lemma toJsonAll_eq (ps : List PropertyDescriptor) : toJsonAll ps = ps.map toJson := by
  induction ps with
  | nil => rfl
  | cons p ps ih => rw [toJsonAll, ih, List.map_cons]

/-- The members of a property, in the order of its fields. -/
def members (p : PropertyDescriptor) : List (String × Json) :=
  [("name", .string p.name), ("base_name", .string p.baseName), ("type", p.type.toJson)] ++
    (Json.memberIf "items" TypeDescriptor.toJson p.items ++ ([("required", .bool p.required)] ++
      (Json.memberIf "enum_values" EnumDescriptor.toJson p.enumValues ++
        (Json.memberIf "union" UnionOf.toJson p.union ++ extensionsMember p.extensions))))

lemma toJson_eq (p : PropertyDescriptor) : p.toJson = .object p.members := by
  obtain ⟨name, baseName, type, items, required, enumValues, _ | ⟨variants, _, _⟩, _⟩ := p
  · simp [toJson, members, membersBefore, Json.memberIf]
  · simp [toJson, members, membersBefore, Json.memberIf, UnionOf.toJson, toJsonAll_eq]

/-- **A property that is written and read is the same property**, however many properties may lie
inside one another beyond those that do. -/
lemma decodes_ofTreeWithin {p : PropertyDescriptor} (hexact : p.Exact) {depth : Nat}
    (hdepth : p.toJson.depth ≤ depth) (hnesting : p.toJson.depth ≤ greatestNesting) :
    Decodes (ofTreeWithin depth) p.toJson p := by
  -- on the property and not on the depth: variants are two levels below the property around them,
  -- and the types in each of them have all the depth of a text to themselves
  induction hexact generalizing depth with
  | @mk p hextensions hcount hvariants ih =>
    rw [toJson_eq] at hdepth hnesting ⊢
    obtain ⟨depth, rfl⟩ : ∃ n, depth = n + 1 := ⟨depth - 1, by rw [Json.depth] at hdepth; omega⟩
    have htype : Decodes TypeDescriptor.ofTree p.type.toJson p.type := by
      have : p.type.toJson.depth < (Json.object p.members).depth :=
        Json.depth_lt_object "type" (by simp [members])
      exact TypeDescriptor.decodes_toJson (by omega)
    have hitems : ∀ t ∈ p.items, Decodes TypeDescriptor.ofTree t.toJson t := by
      intro t ht
      have : t.toJson.depth < (Json.object p.members).depth :=
        Json.depth_lt_object "items" (by simp [members, Option.mem_def.1 ht, Json.memberIf])
      exact TypeDescriptor.decodes_toJson (by omega)
    have hunion : ∀ u ∈ p.union,
        Decodes (UnionOf.ofTreeWith (ofTreeWithin depth)) (UnionOf.toJson u) u := by
      intro u hu
      refine UnionOf.decodes_toJson (hcount u hu) fun v hv => ?_
      have hvariant : v.toJson.depth < (UnionOf.toJson u).depth :=
        Json.depth_lt_of_item "variants" hv List.mem_cons_self
      have : (UnionOf.toJson u).depth < (Json.object p.members).depth :=
        Json.depth_lt_object "union" (by simp [members, Option.mem_def.1 hu, Json.memberIf])
      exact ih u hu v hv (by omega) (by omega)
    have hreads : Reads (Parts.read (ofTreeWithin depth)) fields p.members {}
        ⟨some p.name, some p.baseName, some p.type, p.items, p.required, p.enumValues, p.union,
          p.extensions⟩ := by
      refine .member (fun _ => rfl) (decodes_string p.name) ?_
      refine .member (fun _ => rfl) (decodes_string p.baseName) ?_
      refine .member (fun _ => rfl) htype ?_
      refine .memberIf (fun _ => rfl) rfl hitems
        (fun t _ => by rw [TypeDescriptor.toJson_eq]; rfl) ?_
      refine .member (fun _ => rfl) (decodes_bool p.required) ?_
      refine .memberIf (fun _ => rfl) rfl (fun e _ => e.decodes_toJson) (fun _ _ => rfl) ?_
      refine .memberIf (fun _ => rfl) rfl hunion (fun _ _ => rfl) ?_
      exact reads_extensions hextensions (fun _ => rfl) rfl rfl
    have hrecord := Decodes.record "PropertyDescriptor" (by decide) hreads
    refine ⟨hrecord.readable, ?_⟩
    rw [ofTreeWithin, hrecord.decoded]
    cases p
    rfl

/-- A property that is written and read is the same property. -/
lemma decodes_toJson {p : PropertyDescriptor} (hexact : p.Exact)
    (hdepth : p.toJson.depth ≤ greatestNesting) : Decodes ofTree p.toJson p :=
  decodes_ofTreeWithin hexact hdepth hdepth

end PropertyDescriptor

/-! ## Models -/

lemma ModelFlag.pick_name (flag : ModelFlag) : Tree.pick ModelFlag.names flag.name = .ok flag := by
  cases flag <;> rfl

namespace ModelFlags

/-- **Flags that stand each once and in their order.** -/
def Ordered (flags : ModelFlags) : Prop :=
  ModelFlag.all.filter (· ∈ flags) = flags

/-- One more flag takes its place. -/
lemma ordered_set (flags : ModelFlags) (flag : ModelFlag) : Ordered (set flags flag) := by
  rw [Ordered, set]
  refine List.filter_congr fun f hf => ?_
  rw [Bool.eq_iff_iff]
  simp [hf]

/-- Setting flags one by one puts them in their order. -/
lemma foldl_set (flags : ModelFlags) {seen : ModelFlags} (h : Ordered seen) :
    flags.foldl set seen = ModelFlag.all.filter fun f => f ∈ seen ∨ f ∈ flags := by
  induction flags generalizing seen with
  | nil => simpa using h.symm
  | cons flag flags ih =>
    rw [List.foldl_cons, ih (ordered_set seen flag)]
    refine List.filter_congr fun f _ => decide_eq_decide.2 ?_
    rw [mem_set, List.mem_cons]
    tauto

lemma decodes_toJson {flags : ModelFlags} (h : Ordered flags) :
    Decodes ofTree (Json.arrayOf (fun f : ModelFlag => .string f.name) flags) flags := by
  have hlist : Decodes (Tree.list (Tree.choice ModelFlag.names))
      (Json.arrayOf (fun f : ModelFlag => .string f.name) flags) flags :=
    .list fun flag _ => (decodes_choice flag.pick_name).1
  have hfold : flags.foldl set [] = flags := by
    have hnone : Ordered [] := rfl
    rw [foldl_set flags hnone]
    simp only [List.not_mem_nil, false_or]
    exact h
  exact hlist.bind (congrArg Except.ok hfold)

end ModelFlags

/-- **A model that comes back as it was**: its properties and its union do, its flags stand in their
order, and its facts come back. -/
structure ModelDescriptor.Exact (m : ModelDescriptor) : Prop where
  properties : ∀ p ∈ m.properties, p.Exact
  union : ∀ u ∈ m.union, u.Exact
  flags : m.flags.Ordered
  extensions : ExactMembers m.extensions

lemma ModelDescriptor.decodes_toJson {m : ModelDescriptor} (hexact : m.Exact)
    (hdepth : m.toJson.depth ≤ greatestNesting) : Decodes ofTree m.toJson m := by
  have hproperties : ∀ p ∈ m.properties, Decodes PropertyDescriptor.ofTree p.toJson p := by
    intro p hp
    have : p.toJson.depth < m.toJson.depth := Json.depth_lt_of_item "properties" hp (by simp)
    exact PropertyDescriptor.decodes_toJson (hexact.properties p hp) (by omega)
  have hunion : ∀ u ∈ m.union, Decodes UnionOf.ofTree (UnionOf.toJson u) u := by
    intro u hu
    refine UnionOf.decodes_toJson (hexact.union u hu).count fun v hv => ?_
    have hvariant : v.toJson.depth < (UnionOf.toJson u).depth :=
      Json.depth_lt_of_item "variants" hv List.mem_cons_self
    have : (UnionOf.toJson u).depth < m.toJson.depth :=
      Json.depth_lt_object "union" (by simp [Option.mem_def.1 hu, Json.memberIf])
    exact PropertyDescriptor.decodes_toJson ((hexact.union u hu).variants v hv) (by omega)
  have htype : ∀ t ∈ m.type, Decodes TypeDescriptor.ofTree t.toJson t := by
    intro t ht
    have : t.toJson.depth < m.toJson.depth :=
      Json.depth_lt_object "data_type" (by simp [Option.mem_def.1 ht, Json.memberIf])
    exact TypeDescriptor.decodes_toJson (by omega)
  have hreads : Reads Parts.read
      [.required "canonical_key", .required "class_name", .required "origin",
        .optionally "properties", .optionally "union", .optionally "data_type",
        .optionally "enum_values", .optionally "flags", .optionally "vendor_extensions"]
      ([("canonical_key", .string m.key), ("class_name", .string m.className),
        ("origin", .string m.origin.name),
        ("properties", Json.arrayOf PropertyDescriptor.toJson m.properties)] ++
        Json.memberIf "union" UnionOf.toJson m.union ++
        Json.memberIf "data_type" TypeDescriptor.toJson m.type ++
        Json.memberIf "enum_values" EnumDescriptor.toJson m.enumValues ++
        [("flags", Json.arrayOf (fun f : ModelFlag => .string f.name) m.flags)] ++
        extensionsMember m.extensions) {}
      ⟨some m.key, some m.className, some m.origin,
        { m with key := "", className := "", origin := .declared }⟩ := by
    simp only [List.append_assoc]
    refine .member (fun _ => rfl) (decodes_string m.key) ?_
    refine .member (fun _ => rfl) (decodes_string m.className) ?_
    refine .member (fun _ => rfl) (decodes_choice m.origin.pick_name).1 ?_
    refine .member (fun _ => rfl) (.list hproperties) ?_
    refine .memberIf (fun _ => rfl) rfl hunion (fun _ _ => rfl) ?_
    refine .memberIf (fun _ => rfl) rfl htype (fun t _ => by rw [TypeDescriptor.toJson_eq]; rfl) ?_
    refine .memberIf (fun _ => rfl) rfl (fun e _ => e.decodes_toJson) (fun _ _ => rfl) ?_
    refine .member (fun _ => rfl) (ModelFlags.decodes_toJson hexact.flags) ?_
    exact reads_extensions hexact.extensions (fun _ => rfl) rfl rfl
  exact (Decodes.record _ (by decide) hreads).bind rfl

/-! ## Operations -/

lemma ParameterDescriptor.decodes_toJson {p : ParameterDescriptor}
    (hextensions : ExactMembers p.extensions) (hdepth : p.toJson.depth ≤ greatestNesting) :
    Decodes ofTree p.toJson p := by
  have htype : p.type.toJson.depth < p.toJson.depth := Json.depth_lt_object "type" (by simp)
  have hreads : Reads Parts.read
      [.required "name", .required "base_name", .required "type", .required "location",
        .optionally "required", .optionally "vendor_extensions"]
      ([("name", .string p.name), ("base_name", .string p.baseName), ("type", p.type.toJson),
        ("location", .string p.location.name), ("required", .bool p.required)] ++
        extensionsMember p.extensions) {}
      ⟨some p.name, some p.baseName, some p.type, some p.location, p.required, p.extensions⟩ := by
    refine .member (fun _ => rfl) (decodes_string p.name) ?_
    refine .member (fun _ => rfl) (decodes_string p.baseName) ?_
    refine .member (fun _ => rfl) (TypeDescriptor.decodes_toJson (by omega)) ?_
    refine .member (fun _ => rfl) (decodes_choice p.location.pick_name).1 ?_
    refine .member (fun _ => rfl) (decodes_bool p.required) ?_
    exact reads_extensions hextensions (fun _ => rfl) rfl rfl
  exact (Decodes.record _ (by decide) hreads).bind rfl

lemma ResponseDescriptor.decodes_toJson {r : ResponseDescriptor}
    (hdepth : r.toJson.depth ≤ greatestNesting) : Decodes ofTree r.toJson r := by
  have htype : ∀ t ∈ r.type, Decodes TypeDescriptor.ofTree t.toJson t := by
    intro t ht
    have : t.toJson.depth < r.toJson.depth :=
      Json.depth_lt_object "data_type" (by simp [Option.mem_def.1 ht, Json.memberIf])
    exact TypeDescriptor.decodes_toJson (by omega)
  have hreads : Reads Parts.read
      [.required "code", .required "is_default", .required "is_success", .optionally "data_type",
        .optionally "description"]
      ([("code", .string r.code), ("is_default", .bool r.isDefault),
        ("is_success", .bool r.isSuccess)] ++
        Json.memberIf "data_type" TypeDescriptor.toJson r.type ++
        Json.memberIf "description" .string r.description) {}
      ⟨some r.code, some r.isDefault, some r.isSuccess, r.type, r.description⟩ := by
    rw [List.append_assoc, ← List.append_nil (Json.memberIf "description" _ _)]
    refine .member (fun _ => rfl) (decodes_string r.code) ?_
    refine .member (fun _ => rfl) (decodes_bool r.isDefault) ?_
    refine .member (fun _ => rfl) (decodes_bool r.isSuccess) ?_
    refine .memberIf (fun _ => rfl) rfl htype (fun t _ => by rw [TypeDescriptor.toJson_eq]; rfl) ?_
    exact .memberIf (fun _ => rfl) rfl (fun text _ => decodes_string text) (fun _ _ => rfl) .done
  exact (Decodes.record _ (by decide) hreads).bind rfl

namespace OperationDescriptor

/-- **An operation that comes back as it was**: its body does, and so do its facts and those of its
parameters. -/
structure Exact (o : OperationDescriptor) : Prop where
  body : ∀ b ∈ o.body, b.Exact
  parameters : ∀ p ∈ o.parameters, ExactMembers p.extensions
  extensions : ExactMembers o.extensions

lemma decodes_toJson {o : OperationDescriptor} (hexact : o.Exact)
    (hdepth : o.toJson.depth ≤ greatestNesting) : Decodes ofTree o.toJson o := by
  have hbody : ∀ b ∈ o.body, Decodes PropertyDescriptor.ofTree b.toJson b := by
    intro b hb
    have : b.toJson.depth < o.toJson.depth :=
      Json.depth_lt_object "body" (by simp [Option.mem_def.1 hb, Json.memberIf])
    exact PropertyDescriptor.decodes_toJson (hexact.body b hb) (by omega)
  have hparameters : ∀ (name : String) (ps : List ParameterDescriptor),
      (name, Json.arrayOf ParameterDescriptor.toJson ps) ∈
        [("path_params", Json.arrayOf ParameterDescriptor.toJson o.pathParams),
          ("query_params", Json.arrayOf ParameterDescriptor.toJson o.queryParams),
          ("header_params", Json.arrayOf ParameterDescriptor.toJson o.headerParams)] →
      ps ⊆ o.parameters → ∀ p ∈ ps, Decodes ParameterDescriptor.ofTree p.toJson p := by
    intro name ps hmem hsubset p hp
    have : p.toJson.depth < o.toJson.depth := by
      refine Json.depth_lt_of_item name hp ?_
      simp only [List.mem_append, List.mem_cons] at hmem ⊢
      tauto
    exact ParameterDescriptor.decodes_toJson (hexact.parameters p (hsubset hp)) (by omega)
  have hpath := hparameters "path_params" o.pathParams (by simp)
    fun _ hp => List.mem_append_left _ (List.mem_append_left _ hp)
  have hquery := hparameters "query_params" o.queryParams (by simp)
    fun _ hp => List.mem_append_left _ (List.mem_append_right _ hp)
  have hheader := hparameters "header_params" o.headerParams (by simp)
    fun _ hp => List.mem_append_right _ hp
  have hresponses : ∀ r ∈ o.responses, Decodes ResponseDescriptor.ofTree r.toJson r := by
    intro r hr
    have : r.toJson.depth < o.toJson.depth := Json.depth_lt_of_item "responses" hr (by simp)
    exact ResponseDescriptor.decodes_toJson (by omega)
  have hreads : Reads Parts.read
      [.required "operation_id", .required "nickname", .required "path", .required "http_method",
        .required "tag", .optionally "body", .optionally "path_params", .optionally "query_params",
        .optionally "header_params", .optionally "responses", .optionally "vendor_extensions"]
      ([("operation_id", .string o.operationId), ("nickname", .string o.nickname),
        ("path", .string o.path), ("http_method", .string o.httpMethod), ("tag", .string o.tag)] ++
        Json.memberIf "body" PropertyDescriptor.toJson o.body ++
        [("path_params", Json.arrayOf ParameterDescriptor.toJson o.pathParams),
          ("query_params", Json.arrayOf ParameterDescriptor.toJson o.queryParams),
          ("header_params", Json.arrayOf ParameterDescriptor.toJson o.headerParams),
          ("responses", Json.arrayOf ResponseDescriptor.toJson o.responses)] ++
        extensionsMember o.extensions) {}
      ⟨some o.operationId, some o.nickname, some o.path, some o.httpMethod, some o.tag,
        { o with operationId := "", nickname := "", path := "", httpMethod := "", tag := "" }⟩ := by
    simp only [List.append_assoc]
    refine .member (fun _ => rfl) (decodes_string o.operationId) ?_
    refine .member (fun _ => rfl) (decodes_string o.nickname) ?_
    refine .member (fun _ => rfl) (decodes_string o.path) ?_
    refine .member (fun _ => rfl) (decodes_string o.httpMethod) ?_
    refine .member (fun _ => rfl) (decodes_string o.tag) ?_
    refine .memberIf (fun _ => rfl) rfl hbody
      (fun b _ => by rw [PropertyDescriptor.toJson_eq]; rfl) ?_
    refine .member (fun _ => rfl) (.list hpath) ?_
    refine .member (fun _ => rfl) (.list hquery) ?_
    refine .member (fun _ => rfl) (.list hheader) ?_
    refine .member (fun _ => rfl) (.list hresponses) ?_
    exact reads_extensions hexact.extensions (fun _ => rfl) rfl rfl
  exact (Decodes.record _ (by decide) hreads).bind rfl

end OperationDescriptor

/-! ## Results -/

lemma TagGroup.decodes_toJson {g : TagGroup} (hexact : ∀ o ∈ g.operations, o.Exact)
    (hdepth : g.toJson.depth ≤ greatestNesting) : Decodes ofTree g.toJson g := by
  have hoperations : ∀ o ∈ g.operations, Decodes OperationDescriptor.ofTree o.toJson o := by
    intro o ho
    have : o.toJson.depth < g.toJson.depth := Json.depth_lt_of_item "operations" ho (by simp)
    exact OperationDescriptor.decodes_toJson (hexact o ho) (by omega)
  have hreads : Reads Parts.read
      [.required "base_name", .required "class_name", .required "operations"]
      [("base_name", .string g.baseName), ("class_name", .string g.className),
        ("operations", Json.arrayOf OperationDescriptor.toJson g.operations)] {}
      ⟨some g.baseName, some g.className, some g.operations⟩ := by
    refine .member (fun _ => rfl) (decodes_string g.baseName) ?_
    refine .member (fun _ => rfl) (decodes_string g.className) ?_
    exact .member (fun _ => rfl) (.list hoperations) .done
  exact (Decodes.record _ (by decide) hreads).bind rfl

namespace TypedApi

/-- **A result that comes back as it was**: its models and its operations do, no two models share a
class name, and no two groups of operations share a tag. -/
structure Exact (api : TypedApi) : Prop where
  classNames : (Members.names api.models).Nodup
  models : ∀ e ∈ api.models, e.2.Exact
  tags : (Members.names api.tags).Nodup
  operations : ∀ o ∈ api.operations, o.Exact

/-- **A result that is written and read is the same result**, when all of it comes back as it
was. -/
theorem decodes_toJson {api : TypedApi} (hexact : api.Exact)
    (hdepth : api.toJson.depth ≤ greatestNesting) : Decodes ofTree api.toJson api := by
  have hmodels : ∀ e ∈ api.models, Decodes ModelDescriptor.ofTree e.2.toJson e.2 := by
    intro e he
    have : e.2.toJson.depth < api.toJson.depth := Json.depth_lt_of_entry "models" he (by simp)
    exact ModelDescriptor.decodes_toJson (hexact.models e he) (by omega)
  have htags : ∀ e ∈ api.tags, Decodes TagGroup.ofTree e.2.toJson e.2 := by
    intro e he
    have : e.2.toJson.depth < api.toJson.depth := Json.depth_lt_of_entry "tags" he (by simp)
    refine TagGroup.decodes_toJson (fun o ho => hexact.operations o ?_) (by omega)
    exact List.mem_flatMap.2 ⟨e, he, ho⟩
  have hreads : Reads Parts.read
      [.required "title", .required "version", .required "models", .required "tags"]
      [("title", .string api.title), ("version", .string api.version),
        ("models", Json.objectOf ModelDescriptor.toJson api.models),
        ("tags", Json.objectOf TagGroup.toJson api.tags)] {}
      ⟨some api.title, some api.version, some api.models, some api.tags⟩ := by
    refine .member (fun _ => rfl) (decodes_string api.title) ?_
    refine .member (fun _ => rfl) (decodes_string api.version) ?_
    refine .member (fun _ => rfl) (.ordered hexact.classNames hmodels) ?_
    exact .member (fun _ => rfl) (.ordered hexact.tags htags) .done
  exact (Decodes.record _ (by decide) hreads).bind rfl

end TypedApi

end ApiTypes
