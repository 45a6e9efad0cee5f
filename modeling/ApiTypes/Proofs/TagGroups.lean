import ApiTypes.Proofs.Run
import ApiTypes.Text.Latin
import Mathlib.Data.List.Forall2
import Mathlib.Data.List.Induction

/-!
# What becomes of operations

No operation, parameter or response of a document is lost, made up or put in another place.  A run
goes through the operations one by one, and the table of tags grows on the way: an operation joins
the group of its tag, which is put at the end when it is new.  So the groups of a list of operations
can be told from the list, by induction on its end.

* `ParameterSpec.Carried`, `ResponseSpec.Carried`, `OperationSpec.Carried` — a part of a document
  and what a run makes of it.
* `Filed` — the groups that a list of operations has: the tags in the order of their first use, each
  with its own operations.
* `Filed.addByTag` — one more operation keeps this; `filed_groupByTag` — so it holds of every
  grouping.
* `operations_filed` — **every operation of a document is in the group of its tag**, with all its
  parameters and responses.
-/

namespace ApiTypes

open Resolving

/-! ## Parts of a document and what is made of them -/

/-- **A parameter of a document in a result.**  One in a path is required in any case. -/
structure ParameterSpec.Carried [Spelling] (spec : ParameterSpec) (p : ParameterDescriptor) :
    Prop where
  name_eq : p.name = Name.fieldName spec.name
  baseName_eq : p.baseName = spec.name
  location_eq : p.location = spec.location
  required_iff : p.required = true ↔ spec.required = true ∨ spec.location = .path

/-- What a parameter is made of says nothing of its type. -/
lemma ParameterSpec.Carried.ofType [Spelling] {spec : ParameterSpec} {p : ParameterDescriptor}
    (h : spec.Carried p) (t : TypeDescriptor) : spec.Carried { p with type := t } :=
  ⟨h.name_eq, h.baseName_eq, h.location_eq, h.required_iff⟩

/-- **A response of a document in a result.** -/
structure ResponseSpec.Carried (code : String) (spec : ResponseSpec) (r : ResponseDescriptor) :
    Prop where
  code_eq : r.code = code
  description_eq : r.description = spec.description
  isDefault_iff : r.isDefault = true ↔ Text.lowerAscii code = "default"
  isSuccess_eq : r.isSuccess = isSuccessCode code
  type_iff : r.type.isSome = spec.schema.isSome

/-- The parameters of an operation that stand in a place, in order. -/
def OperationSpec.parametersIn (spec : OperationSpec) (location : ParameterLocation) :
    List ParameterSpec :=
  spec.parameters.filter (·.location = location)

/-- **An operation of a document in a result**, with its parameters by their places and with its
responses, all in order. -/
structure OperationSpec.Carried [Spelling] (config : Config) (spec : OperationSpec)
    (o : OperationDescriptor) : Prop where
  operationId_eq : o.operationId = operationIdOf config spec
  path_eq : o.path = spec.path
  httpMethod_eq : o.httpMethod = methodOf spec
  tag_eq : o.tag = tagOf config spec
  body_iff : o.body.isSome = spec.requestBody.isSome
  pathParams : List.Forall₂ ParameterSpec.Carried (spec.parametersIn .path) o.pathParams
  queryParams : List.Forall₂ ParameterSpec.Carried (spec.parametersIn .query) o.queryParams
  headerParams : List.Forall₂ ParameterSpec.Carried (spec.parametersIn .header) o.headerParams
  responses : List.Forall₂ (fun e r => ResponseSpec.Carried e.1 e.2 r) spec.responses o.responses

/-- A part is there when the part of the document is that it comes from. -/
lemma isSome_eq_of_rel {α β : Type} {R : α → β → Prop} {x : Option α} {y : Option β}
    (h : Option.Rel R x y) : y.isSome = x.isSome := by
  cases h <;> rfl

namespace Scope

variable {scope : Scope} {operationId : String}

lemma parameter_carried [Spelling] {spec : ParameterSpec} {p : ParameterDescriptor}
    (h : Gives (scope.parameter operationId spec) p) : spec.Carried p := by
  obtain ⟨type, -, h⟩ := gives_bind.1 h
  refine ⟨?_, ?_, ?_, ?_⟩ <;> rw [← gives_pure.1 h]
  simp

lemma response_carried {code : String} {spec : ResponseSpec} {r : ResponseDescriptor}
    (h : Gives (scope.response operationId code spec) r) : spec.Carried code r := by
  have htype := isSome_eq_of_rel (response_cases h)
  rw [response] at h
  dsimp only at h
  split at h
  · simp only [gives_bind, gives_pure] at h
    obtain ⟨_, -, _, rfl, rfl⟩ := h
    exact ⟨rfl, rfl, decide_eq_true_iff, rfl, htype⟩
  · simp only [gives_bind, gives_pure] at h
    obtain ⟨_, rfl, rfl⟩ := h
    exact ⟨rfl, rfl, decide_eq_true_iff, rfl, htype⟩

variable [Spelling]

/-- The parameters that stand in a place come from those of the document that stand there. -/
lemma parametersIn_carried {spec : OperationSpec} {ps : List ParameterDescriptor}
    (h : Gives (spec.parameters.mapM (scope.parameter operationId)) ps)
    (location : ParameterLocation) :
    List.Forall₂ ParameterSpec.Carried (spec.parametersIn location)
      (ps.filter (·.location = location)) := by
  have hall := (gives_mapM.1 h).imp fun _ _ hp => parameter_carried hp
  refine List.rel_filter (fun spec p hp => ?_) hall
  simp [hp.location_eq]

/-- Page numbers get another type, and nothing else changes. -/
lemma settlePaging_carried {specs : List ParameterSpec} {ps : List ParameterDescriptor}
    (h : List.Forall₂ ParameterSpec.Carried specs ps) :
    List.Forall₂ ParameterSpec.Carried specs (settlePaging ps) := by
  refine List.forall₂_map_right_iff.2 (h.imp fun spec p hp => ?_)
  split
  · exact hp.ofType pageType
  · exact hp

/-- **An operation is made with all that the document says of it.** -/
lemma operation_carried {spec : OperationSpec} {o : OperationDescriptor}
    (h : Gives (scope.operation spec) o) : spec.Carried scope.config o := by
  obtain ⟨parameters, body, responses, hparameters, hbody, hresponses, rfl⟩ := operation_eq h
  refine ⟨rfl, rfl, rfl, rfl, ?_, parametersIn_carried hparameters _,
    settlePaging_carried (parametersIn_carried hparameters _), parametersIn_carried hparameters _,
    (gives_mapM.1 hresponses).imp fun _ _ hr => response_carried hr⟩
  rw [Option.isSome_map, isSome_eq_of_rel hbody]

end Scope

namespace OperationSpec.Carried

variable [Spelling] {config : Config} {spec : OperationSpec} {o : OperationDescriptor}

/-- Other types leave an operation what it was made of. -/
lemma relabel (h : spec.Carried config o) (classNames : String → Option String) :
    spec.Carried config (o.relabel classNames) := by
  have hparams : ∀ {specs : List ParameterSpec} {ps : List ParameterDescriptor},
      List.Forall₂ ParameterSpec.Carried specs ps →
        List.Forall₂ ParameterSpec.Carried specs
          (ps.map fun p => { p with type := relabelType classNames p.type }) :=
    fun hps => List.forall₂_map_right_iff.2 (hps.imp fun _ _ hp => hp.ofType _)
  refine ⟨h.operationId_eq, h.path_eq, h.httpMethod_eq, h.tag_eq, ?_, hparams h.pathParams,
    hparams h.queryParams, hparams h.headerParams, ?_⟩
  · exact Option.isSome_map.trans h.body_iff
  · refine List.forall₂_map_right_iff.2 (h.responses.imp fun _ _ hr => ?_)
    exact ⟨hr.code_eq, hr.description_eq, hr.isDefault_iff, hr.isSuccess_eq,
      Option.isSome_map.trans hr.type_iff⟩

/-- A parameter of an operation comes from one of the document that stands in its place. -/
lemma exists_parameter {location : ParameterLocation} {ps : List ParameterDescriptor}
    (h : List.Forall₂ ParameterSpec.Carried (spec.parametersIn location) ps)
    {p : ParameterDescriptor} (hp : p ∈ ps) :
    ∃ declared ∈ spec.parameters, declared.location = location ∧ declared.Carried p := by
  obtain ⟨declared, hdeclared, hcarried⟩ := exists_left_of_forall₂ h hp
  obtain ⟨hmem, hlocation⟩ := List.mem_filter.1 hdeclared
  exact ⟨declared, hmem, of_decide_eq_true hlocation, hcarried⟩

/-- Parameters in the path are required. -/
lemma required_pathParams (h : spec.Carried config o) :
    ∀ p ∈ o.pathParams, p.required = true := by
  intro p hp
  obtain ⟨declared, -, hlocation, hcarried⟩ := exists_parameter h.pathParams hp
  exact hcarried.required_iff.2 (Or.inr hlocation)

/-- The parameters of an operation stand in the place of their list. -/
lemma location_eq {location : ParameterLocation} {ps : List ParameterDescriptor}
    (h : List.Forall₂ ParameterSpec.Carried (spec.parametersIn location) ps)
    {p : ParameterDescriptor} (hp : p ∈ ps) : p.location = location := by
  obtain ⟨declared, -, hlocation, hcarried⟩ := exists_parameter h hp
  exact hcarried.location_eq.trans hlocation

/-- No parameter is a cookie. -/
lemma location_ne_cookie (h : spec.Carried config o) :
    ∀ p ∈ o.parameters, p.location ≠ .cookie := by
  intro p hp hcookie
  rw [OperationDescriptor.parameters, List.mem_append, List.mem_append] at hp
  rcases hp with (hp | hp) | hp
  · cases (location_eq h.pathParams hp).symm.trans hcookie
  · cases (location_eq h.queryParams hp).symm.trans hcookie
  · cases (location_eq h.headerParams hp).symm.trans hcookie

end OperationSpec.Carried

/-! ## Groups -/

/-- What comes last in a list is seen first there only when it is new. -/
lemma eraseDups_concat (xs : List String) (x : String) :
    (xs ++ [x]).eraseDups = if x ∈ xs.eraseDups then xs.eraseDups else xs.eraseDups ++ [x] := by
  by_cases h : x ∈ xs
  · simp [List.eraseDups_append, List.removeAll, h]
  · simp [List.eraseDups_append, List.removeAll, h, List.eraseDups_cons]

/-- **The groups that a list of operations has**: their tags in the order in which the list first
uses them, each once, and under each tag the operations that have it, in the order of the list. -/
structure Filed [Spelling] (os : List OperationDescriptor) (groups : List (String × TagGroup)) :
    Prop where
  names_nodup : (Members.names groups).Nodup
  names_eq : Members.names groups = (os.map (·.tag)).eraseDups
  group_eq : ∀ e ∈ groups, e.2 = .ofTag e.1 (os.filter (·.tag = e.1))

namespace Filed

variable [Spelling] {os : List OperationDescriptor} {groups : List (String × TagGroup)}

lemma mem_names (h : Filed os groups) {tag : String} :
    tag ∈ Members.names groups ↔ ∃ o ∈ os, o.tag = tag := by
  rw [h.names_eq, List.mem_eraseDups, List.mem_map]

/-- The operations of a group have its tag. -/
lemma tag_eq (h : Filed os groups) {e : String × TagGroup} (he : e ∈ groups)
    {o : OperationDescriptor} (ho : o ∈ e.2.operations) : o.tag = e.1 := by
  rw [h.group_eq e he] at ho
  exact of_decide_eq_true (List.mem_filter.1 ho).2

/-- An operation comes after those that have its tag so far, also when none has. -/
lemma addByTag_eq (h : Filed os groups) (o : OperationDescriptor) :
    addByTag groups o =
      Members.put groups o.tag (.ofTag o.tag (os.filter (·.tag = o.tag) ++ [o])) := by
  rw [addByTag]
  split
  · rename_i group hgroup
    have hbefore := congrArg TagGroup.operations (h.group_eq _ (Members.mem_of_get? hgroup))
    exact congrArg (fun os => Members.put groups o.tag (.ofTag o.tag (os ++ [o]))) hbefore
  · rename_i hnone
    have hbefore : os.filter (·.tag = o.tag) = [] := List.filter_eq_nil_iff.2 fun o' ho' htag =>
      Members.get?_eq_none.1 hnone (h.mem_names.2 ⟨o', ho', of_decide_eq_true htag⟩)
    rw [hbefore]

/-- **One more operation joins the group of its tag**, and a new tag comes last. -/
lemma addByTag (h : Filed os groups) (o : OperationDescriptor) :
    Filed (os ++ [o]) (addByTag groups o) := by
  rw [h.addByTag_eq]
  have hnodup : (Members.names (Members.put groups o.tag
      (.ofTag o.tag (os.filter (·.tag = o.tag) ++ [o])))).Nodup := Members.nodup_put h.names_nodup
  refine ⟨hnodup, ?_, fun e he => ?_⟩
  · rw [List.map_append, List.map_singleton, eraseDups_concat, ← h.names_eq]
    by_cases hused : o.tag ∈ Members.names groups
    · rw [if_pos hused, Members.names_put_of_mem hused]
    · rw [if_neg hused, Members.put_of_not_mem hused, Members.names, List.map_append]
      rfl
  · have hget := Members.get?_of_mem hnodup he
    rw [Members.get?_put] at hget
    by_cases htag : o.tag = e.1
    · rw [if_pos htag] at hget
      rw [← Option.some.inj hget, List.filter_append, htag]
      simp [htag]
    · rw [if_neg htag] at hget
      rw [h.group_eq e (Members.mem_of_get? hget), List.filter_append]
      simp [htag]

end Filed

/-- **Grouping by tags files every operation.** -/
lemma filed_groupByTag [Spelling] (os : List OperationDescriptor) : Filed os (groupByTag os) := by
  induction os using List.reverseRecOn with
  | nil => exact ⟨List.nodup_nil, rfl, by simp [groupByTag]⟩
  | append_singleton os o ih =>
    rw [groupByTag, List.foldl_append]
    exact ih.addByTag o

/-! ## Whole results -/

/-- **Every operation of a document is in the group of its tag**, with all its parameters and
responses: what is made of the operations is filed in the groups of the result, whose tags come in
the order in which the document first uses them. -/
theorem operations_filed [Spelling] {document : ApiDocument} {config : Config} {api : TypedApi}
    {statistics : Statistics} (h : document.resolve config = .ok (api, statistics)) :
    (∃ os, List.Forall₂ (OperationSpec.Carried config) document.operations os ∧ Filed os api.tags ∧
      os.Perm api.operations) ∧
    Members.names api.tags = (document.operations.map (tagOf config)).eraseDups ∧
    (∀ e ∈ api.tags, ∀ o ∈ e.2.operations, o.tag = e.1) ∧
    statistics.operationsConverted = api.operations.length ∧
    ∀ o ∈ api.operations, (∀ p ∈ o.pathParams, p.required = true) ∧
      ∀ p ∈ o.parameters, p.location ≠ .cookie := by
  obtain ⟨parts, run⟩ := ApiDocument.exists_run h
  obtain ⟨models, memo, -, -, hoperations⟩ := run.exists_models
  let os := parts.operations.map (·.relabel (parts.settled document config).registry.className?)
  have hcarried : List.Forall₂ (OperationSpec.Carried config) document.operations os :=
    List.forall₂_map_right_iff.2 ((gives_mapM.1 hoperations).imp fun _ _ ho =>
      (Scope.operation_carried ho).relabel _)
  have hfiled : Filed os api.tags := run.tags_eq ▸ filed_groupByTag os
  have hperm : os.Perm api.operations := by
    rw [TypedApi.operations, run.tags_eq]
    exact (operations_groupByTag os).symm
  refine ⟨⟨os, hcarried, hfiled, hperm⟩, ?_, fun e he o ho => hfiled.tag_eq he ho, ?_,
    fun o ho => ?_⟩
  · have htags : document.operations.map (tagOf config) = os.map (·.tag) :=
      List.forall₂_eq_eq_eq ▸ List.forall₂_map_left_iff.2
        (List.forall₂_map_right_iff.2 (hcarried.imp fun _ _ ho => ho.tag_eq.symm))
    rw [hfiled.names_eq, htags]
  · rw [run.operationsConverted_eq, ← hperm.length_eq, List.length_map]
  · obtain ⟨spec, -, ho⟩ := exists_left_of_forall₂ hcarried (hperm.mem_iff.2 ho)
    exact ⟨ho.required_pathParams, ho.location_ne_cookie⟩

/-- A document whose operations use two tags in turn, one of them uses none, and whose parameters
stand in every place. -/
def ApiDocument.library : ApiDocument :=
  { title := "Library"
    version := "1"
    models := [("book", { schema := ⟨.object {}, []⟩ })]
    operations :=
      [{ path := "/books"
         method := "get"
         tags := ["books", "lists"]
         parameters :=
           [{ name := "session", location := .cookie, schema := ⟨.scalar { kind := .string }, []⟩ },
             { name := "page", location := .query, schema := ⟨.scalar { kind := .string }, []⟩ },
             { name := "accept", location := .header, schema := ⟨.scalar { kind := .string }, []⟩ },
             { name := "author", location := .query, required := true,
               schema := ⟨.scalar { kind := .string }, []⟩ }]
         responses := [("200", { schema := some ⟨.reference "book", []⟩ }),
           ("default", { description := some "broken" })] },
        { path := "/readers", method := "get", responses := [("204", {})] },
        { path := "/books/\x7bid\x7d"
          method := "get"
          tags := ["books"]
          parameters :=
            [{ name := "id", location := .path, schema := ⟨.scalar { kind := .integer }, []⟩ }] }] }

lemma ApiDocument.exists_result_library : ∃ api statistics,
    library.resolve {} = .ok (api, statistics) ∧
      api.tags.map (fun e => (e.1, e.2.operations.map fun o =>
        (o.path, o.parameters.map (·.baseName)))) =
        [("books", [("/books", ["page", "author", "accept"]), ("/books/\x7bid\x7d", ["id"])]),
          ("default", [("/readers", [])])] :=
  exists_result_of (by decide +kernel)

theorem library_operations_filed : ∃ api statistics,
    ApiDocument.library.resolve {} = .ok (api, statistics) ∧
      api.tags.map (fun e => (e.1, e.2.operations.map (·.path))) =
        [("books", ["/books", "/books/\x7bid\x7d"]), ("default", ["/readers"])] ∧
      (∃ os, List.Forall₂ (OperationSpec.Carried {}) ApiDocument.library.operations os ∧
        Filed os api.tags ∧ os.Perm api.operations) ∧
      Members.names api.tags = (ApiDocument.library.operations.map (tagOf {})).eraseDups ∧
      (∀ e ∈ api.tags, ∀ o ∈ e.2.operations, o.tag = e.1) ∧
      statistics.operationsConverted = api.operations.length ∧
      ∀ o ∈ api.operations, (∀ p ∈ o.pathParams, p.required = true) ∧
        ∀ p ∈ o.parameters, p.location ≠ .cookie := by
  obtain ⟨api, statistics, h, hview⟩ := ApiDocument.exists_result_library
  have hpaths := congrArg (List.map fun e => (e.1, e.2.map Prod.fst)) hview
  simp only [List.map_map, Function.comp_def] at hpaths
  exact ⟨api, statistics, h, hpaths, operations_filed h⟩

end ApiTypes
