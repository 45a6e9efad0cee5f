import ApiTypes.Proofs.Models
import ApiTypes.Resolution.Document

/-!
# The operations that a run makes

The types in the descriptors of operations, and where the descriptors go.

* `operations_current` — the types of bodies, parameters and responses are current.
* `body_of_reference`, `response_of_reference` — those of bodies and responses that are nothing but
  references.
* `operations_groupByTag` — grouping by tags loses no operation and makes up none.
-/

namespace ApiTypes

open Resolving
open TypeDescriptor (Current current_primitive)

/-- A part that is there comes from a part of the document. -/
lemma exists_of_rel {α β : Type} {R : α → β → Prop} {x : Option α} {y : Option β} {b : β}
    (h : Option.Rel R x y) (hb : b ∈ y) : ∃ a ∈ x, R a b := by
  cases h with
  | none => cases hb
  | some hab =>
    rw [← Option.some.inj hb]
    exact ⟨_, rfl, hab⟩

namespace Scope

variable {scope : Scope} {operationId : String}

/-! ## The parts of an operation -/

lemma parameter_current [Spelling] {spec : ParameterSpec} {p : ParameterDescriptor}
    (h : Gives (scope.parameter operationId spec) p) :
    p.type.Current scope.registry.className? := by
  obtain ⟨type, htype, h⟩ := gives_bind.1 h
  rw [← gives_pure.1 h]
  exact schemaType_current spec.schema _ type htype

/-- Page numbers get another type, which names no model. -/
lemma settlePaging_current {classNames : String → Option String} {ps : List ParameterDescriptor}
    (h : ∀ p ∈ ps, p.type.Current classNames) :
    ∀ p ∈ settlePaging ps, p.type.Current classNames := by
  intro p hp
  obtain ⟨p', hp', rfl⟩ := List.mem_map.1 hp
  split
  · exact current_primitive _
  · exact h p' hp'

lemma body_current {spec : RequestBodySpec} {body : PropertyDescriptor × Bool}
    (h : Gives (scope.body operationId spec) body) :
    body.1.Current scope.registry.className? := by
  obtain ⟨resolved, hresolved, h⟩ := gives_bind.1 h
  rw [← gives_pure.1 h]
  have hcurrent : (if isBytesBody resolved then TypeDescriptor.primitive .bytes
      else resolved).Current scope.registry.className? := by
    split
    · exact current_primitive _
    · exact schemaType_current spec.schema _ resolved hresolved
  exact PropertyDescriptor.current_iff.2 ⟨hcurrent, fun _ ht => hcurrent.items ht, by simp⟩

lemma response_cases {code : String} {spec : ResponseSpec} {r : ResponseDescriptor}
    (h : Gives (scope.response operationId code spec) r) :
    Option.Rel
      (fun schema t => Gives (scope.schemaType schema (responseLocation operationId code)) t)
      spec.schema r.type := by
  rw [response] at h
  dsimp only at h
  split at h
  · rename_i schema hschema
    simp only [gives_bind, gives_pure] at h
    obtain ⟨t, ht, _, rfl, rfl⟩ := h
    exact hschema ▸ .some ht
  · rename_i hnone
    simp only [gives_bind, gives_pure] at h
    obtain ⟨_, rfl, rfl⟩ := h
    exact hnone ▸ .none

lemma response_current {code : String} {spec : ResponseSpec} {r : ResponseDescriptor}
    (h : Gives (scope.response operationId code spec) r) :
    ∀ t ∈ r.type, t.Current scope.registry.className? := by
  intro t ht
  obtain ⟨schema, -, ht⟩ := exists_of_rel (response_cases h) ht
  exact schemaType_current schema _ t ht

/-! ## Parts that are nothing but references -/

lemma schemaType_of_reference {node : SchemaNode} {key location : String} {t : TypeDescriptor}
    (hkey : node.referenceName = some key) (h : Gives (scope.schemaType node location) t) :
    ∃ className, scope.registry.className? key = some className ∧ t = .model key className := by
  obtain ⟨shape, _⟩ := node
  cases shape with
  | reference name =>
    obtain rfl : name = key := Option.some.inj hkey
    rw [schemaType, shapeType, gives_located] at h
    exact referenceType_eq_ok h
  | _ => cases hkey

/-- A reference is not taken as bytes: no model is called like the type of any value. -/
lemma isBytesBody_model {key className : String} (hlegal : Name.Legal className) :
    isBytesBody (.model key className) = false := by
  have hname : className ≠ Primitive.value.name := hlegal.ne_reserved (by decide +kernel)
  simp [isBytesBody, TypeDescriptor.isDynamic, TypeDescriptor.asPrimitive, TypeDescriptor.model,
    hname]

lemma body_of_reference {spec : RequestBodySpec} {body : PropertyDescriptor × Bool} {key : String}
    (hlegal : scope.registry.LegalNames) (hkey : spec.schema.referenceName = some key)
    (h : Gives (scope.body operationId spec) body) :
    ∃ className, scope.registry.className? key = some className ∧
      body.1.type = .model key className := by
  obtain ⟨resolved, hresolved, h⟩ := gives_bind.1 h
  obtain ⟨className, hname, rfl⟩ := schemaType_of_reference hkey hresolved
  refine ⟨className, hname, ?_⟩
  obtain ⟨m, hm, rfl⟩ := Registry.className?_eq_some.1 hname
  have hbytes : isBytesBody (.model key m.className) = false :=
    isBytesBody_model (hlegal _ (Members.mem_of_get? hm))
  rw [← gives_pure.1 h]
  simp [hbytes]

lemma response_of_reference {code : String} {spec : ResponseSpec} {r : ResponseDescriptor}
    {key : String} (hkey : spec.schema.bind (·.referenceName) = some key)
    (h : Gives (scope.response operationId code spec) r) :
    ∃ className, scope.registry.className? key = some className ∧
      r.type = some (.model key className) := by
  have hrel := response_cases h
  obtain ⟨schema, hschema, hkey⟩ := Option.bind_eq_some_iff.1 hkey
  rw [hschema] at hrel
  generalize htype : r.type = type at hrel
  cases hrel with
  | some ht =>
    obtain ⟨className, hname, rfl⟩ := schemaType_of_reference hkey ht
    exact ⟨className, hname, rfl⟩

/-! ## Whole operations -/

variable [Spelling]

/-- **An operation consists of its parameters, its body and its responses**, each made from its own
part of the document. -/
lemma operation_eq {spec : OperationSpec} {o : OperationDescriptor}
    (h : Gives (scope.operation spec) o) :
    ∃ parameters body responses,
      Gives (spec.parameters.mapM (scope.parameter (operationIdOf scope.config spec))) parameters ∧
      Option.Rel (fun b b' => Gives (scope.body (operationIdOf scope.config spec) b) b')
        spec.requestBody body ∧
      Gives (spec.responses.mapM fun (code, r) =>
        scope.response (operationIdOf scope.config spec) code r) responses ∧
      o =
        { operationId := operationIdOf scope.config spec
          nickname := Name.methodName (operationIdOf scope.config spec)
          path := spec.path
          httpMethod := methodOf spec
          tag := tagOf scope.config spec
          body := body.map (·.1)
          pathParams := parameters.filter (·.location = .path)
          queryParams := settlePaging (parameters.filter (·.location = .query))
          headerParams := parameters.filter (·.location = .header)
          responses := responses
          extensions := operationExtensions (body.any (·.2))
            (settlePaging (parameters.filter (·.location = .query))) responses spec.metadata } := by
  obtain ⟨parameters, hparameters, h⟩ := gives_bind.1 h
  dsimp only at h
  split at h
  · rename_i b hb
    simp only [gives_bind, gives_pure] at h
    obtain ⟨b', hb', _, rfl, responses, hresponses, rfl⟩ := h
    exact ⟨parameters, some b', responses, hparameters, hb ▸ .some hb', hresponses, rfl⟩
  · rename_i hnone
    simp only [gives_bind, gives_pure] at h
    obtain ⟨_, rfl, responses, hresponses, rfl⟩ := h
    exact ⟨parameters, none, responses, hparameters, hnone ▸ .none, hresponses, rfl⟩

/-- An operation is told by its id, its path and its method. -/
lemma operation_identity {spec : OperationSpec} {o : OperationDescriptor}
    (h : Gives (scope.operation spec) o) :
    o.operationId = operationIdOf scope.config spec ∧ o.path = spec.path ∧
      o.httpMethod = methodOf spec := by
  obtain ⟨-, -, -, -, -, -, rfl⟩ := operation_eq h
  exact ⟨rfl, rfl, rfl⟩

/-- The parts of an operation, one by one. -/
lemma operation_cases {spec : OperationSpec} {o : OperationDescriptor}
    (h : Gives (scope.operation spec) o) :
    ∃ parameters body responses,
      Gives (spec.parameters.mapM (scope.parameter (operationIdOf scope.config spec))) parameters ∧
      Option.Rel (fun b b' => Gives (scope.body (operationIdOf scope.config spec) b) b')
        spec.requestBody body ∧
      Gives (spec.responses.mapM fun (code, r) =>
        scope.response (operationIdOf scope.config spec) code r) responses ∧
      o.body = body.map (·.1) ∧
      o.pathParams = parameters.filter (·.location = .path) ∧
      o.queryParams = settlePaging (parameters.filter (·.location = .query)) ∧
      o.headerParams = parameters.filter (·.location = .header) ∧
      o.responses = responses := by
  obtain ⟨parameters, body, responses, hparameters, hbody, hresponses, rfl⟩ := operation_eq h
  exact ⟨parameters, body, responses, hparameters, hbody, hresponses, rfl, rfl, rfl, rfl, rfl⟩

/-- All types in an operation are current. -/
lemma operation_current {spec : OperationSpec} {o : OperationDescriptor}
    (h : Gives (scope.operation spec) o) : ∀ t ∈ o.types, t.Current scope.registry.className? := by
  obtain ⟨parameters, body, responses, hparameters, hbody, hresponses, obody, opath, oquery,
    oheader, oresponses⟩ := operation_cases h
  have hparameter : ∀ q : ParameterDescriptor → Bool,
      ∀ p ∈ parameters.filter q, p.type.Current scope.registry.className? := fun q p hp => by
    obtain ⟨spec, -, hp⟩ := exists_of_gives_mapM hparameters (List.mem_of_mem_filter hp)
    exact parameter_current hp
  have hbodies : ∀ b ∈ body, b.1.Current scope.registry.className? := by
    intro b hb
    obtain ⟨spec, -, hb⟩ := exists_of_rel hbody hb
    exact body_current hb
  intro t ht
  simp only [OperationDescriptor.types, OperationDescriptor.parameters, obody, opath, oquery,
    oheader, oresponses, List.mem_append, List.mem_flatMap, List.mem_map, List.mem_filterMap,
    Option.mem_toList, Option.map_eq_some_iff] at ht
  rcases ht with (⟨p, ⟨b, hb, rfl⟩, ht⟩ | ⟨p, (hp | hp) | hp, rfl⟩) | ⟨r, hr, ht⟩
  · exact hbodies b hb t ht
  · exact hparameter _ p hp
  · exact settlePaging_current (hparameter _) p hp
  · exact hparameter _ p hp
  · obtain ⟨spec, -, hr⟩ := exists_of_gives_mapM hresponses hr
    exact response_current hr t ht

lemma operations_current {specs : List OperationSpec} {os : List OperationDescriptor}
    (h : Gives (scope.operations specs) os) :
    ∀ o ∈ os, ∀ t ∈ o.types, t.Current scope.registry.className? := by
  intro o ho
  obtain ⟨spec, -, ho⟩ := exists_of_gives_mapM h ho
  exact operation_current ho

end Scope

/-! ## Groups of operations -/

variable [Spelling]

lemma addByTag_cons (tag : String) (group : TagGroup) (groups : List (String × TagGroup))
    (o : OperationDescriptor) :
    addByTag ((tag, group) :: groups) o =
      if tag = o.tag then (o.tag, .ofTag o.tag (group.operations ++ [o])) :: groups
      else (tag, group) :: addByTag groups o := by
  simp only [addByTag, Members.get?_cons, Members.put]
  by_cases h : tag = o.tag
  · simp only [h, if_true]
  · simp only [h, if_false]

/-- The group of its tag holds the operation that was added, and all else stays. -/
lemma operations_addByTag (groups : List (String × TagGroup)) (o : OperationDescriptor) :
    ((addByTag groups o).flatMap (·.2.operations)).Perm
      (groups.flatMap (·.2.operations) ++ [o]) := by
  induction groups with
  | nil => exact .refl _
  | cons e groups ih =>
    obtain ⟨tag, group⟩ := e
    rw [addByTag_cons]
    split
    · simp only [List.flatMap_cons, TagGroup.ofTag, List.append_assoc]
      exact List.perm_append_comm.append_left _
    · simp only [List.flatMap_cons, List.append_assoc]
      exact ih.append_left _

/-- Grouping by tags loses no operation and makes up none. -/
theorem operations_groupByTag (os : List OperationDescriptor) :
    ((groupByTag os).flatMap (·.2.operations)).Perm os := by
  suffices hfold : ∀ groups : List (String × TagGroup),
      ((os.foldl addByTag groups).flatMap (·.2.operations)).Perm
        (groups.flatMap (·.2.operations) ++ os) from hfold []
  induction os with
  | nil => simp
  | cons o os ih =>
    intro groups
    refine (ih _).trans ?_
    have hstep := (operations_addByTag groups o).append_right os
    rwa [List.append_assoc, List.singleton_append] at hstep

end ApiTypes
