import ApiTypes.Proofs.TakenNames
import ApiTypes.Text.Latin

/-!
# Bodies that are to keep their names

The configuration can exclude a body from being named after its operation.  Then no operation
suggests a name for its key.  Still the body does not always keep its name: it is left out when it
is a union, and it takes the name that is suggested for another body whose key is the same in camel
case.

* `TypedApi.Keeps` — the body is in the result under a class name, and so it is referred to.
* `namings_ne_of_excluded` — no operation has a name for an excluded body.
* `keeps_iff_of_excluded` — **when an excluded body keeps its name**.  `not_keeps_mutedBodies` — a
  document where it does not.
-/

namespace ApiTypes

open Resolving

/-- The model of a key is in the result under a class name, and every body that is nothing but a
reference to it refers to it under that name. -/
structure TypedApi.Keeps [Spelling] (api : TypedApi) (document : ApiDocument) (config : Config)
    (key className : String) : Prop where
  model : ∃ e ∈ api.models, e.2.key = key ∧ e.1 = className
  /-- The operations are those of the document, in some order. -/
  bodies : ∃ os : List OperationDescriptor, os.Perm api.operations ∧
    List.Forall₂ (fun (spec : OperationSpec) (o : OperationDescriptor) =>
      (o.operationId = operationIdOf config spec ∧ o.path = spec.path ∧
        o.httpMethod = methodOf spec) ∧
      ∀ b ∈ spec.requestBody, b.schema.referenceName = some key →
        ∃ body ∈ o.body, body.type = .model key className) document.operations os

namespace ApiDocument

variable [Spelling] {document : ApiDocument} {config : Config} {parts : ResolvedDocument}
  {api : TypedApi} {statistics : Statistics} {key className : String}

/-- No operation has a name for an excluded body on which none is forced. -/
lemma namings_ne_of_excluded (horigin : document.originOf? key = some .requestBody)
    (hexcluded : key ∈ config.excludedBodies) (hfree : document.override? config key = none) :
    ∀ n ∈ document.namings config, n.key ≠ key := by
  rintro n hn rfl
  have hnot : n.forced ≠ true := fun hforced => by
    obtain ⟨forced, hoverride⟩ := exists_override hn hforced (decide_eq_true rfl)
    rw [hoverride] at hfree
    cases hfree
  rcases naming_cases hn with ⟨hforced, -⟩ | ⟨-, ⟨-, hnotExcluded⟩ | hresponse⟩
  · exact hnot hforced
  · exact hnotExcluded hexcluded
  · rw [horigin] at hresponse
    cases hresponse

namespace Run

/-- In a result bodies refer to models under their class names. -/
lemma keeps_iff (run : document.Run config parts api statistics) :
    api.Keeps document config key className ↔
      (parts.settled document config).registry.className? key = some className := by
  refine ⟨fun h => run.className?_settled_eq_some_iff.2 h.model,
    fun h => ⟨run.className?_settled_eq_some_iff.1 h, ?_⟩⟩
  obtain ⟨models, memo, -, -, hoperations⟩ := run.exists_models
  refine ⟨parts.operations.map (·.relabel (parts.settled document config).registry.className?),
    ?_, ?_⟩
  · rw [TypedApi.operations, run.tags_eq]
    exact (operations_groupByTag _).symm
  rw [List.forall₂_map_right_iff]
  refine (gives_mapM.1 hoperations).imp fun spec o ho => ⟨Scope.operation_identity ho, ?_⟩
  intro b hb hkey
  obtain ⟨-, body, -, -, hbody, -, heq, -⟩ := Scope.operation_cases ho
  rw [Option.mem_def.1 hb] at hbody
  cases hbody with
  | @some _ b' hgives =>
    have hlegal : (models.foldl Registry.install (Registry.ofDocument document).1).LegalNames :=
      Registry.legalNames_of_titles Registry.titles_installAll Registry.ofDocument_legalNames
    obtain ⟨registered, -, htype⟩ := Scope.body_of_reference hlegal hkey hgives
    refine ⟨b'.1.mapTypes (relabelType (parts.settled document config).registry.className?),
      ?_, ?_⟩
    · rw [OperationDescriptor.relabel, OperationDescriptor.mapTypes, heq]
      rfl
    · rw [PropertyDescriptor.type_mapTypes, htype, TypeDescriptor.relabelType_model, h]
      rfl

end Run

end ApiDocument

/-- **When an excluded body keeps its name.**  No operation has a name for it.  When none has one
for a key that is the same in camel case either, it keeps its name unless it is a union.  Otherwise
it takes the name that is suggested for that key, and has its own only if this is the same. -/
theorem keeps_iff_of_excluded [AsciiSpelling] {document : ApiDocument} {config : Config}
    {api : TypedApi} {statistics : Statistics}
    (h : document.resolve config = .ok (api, statistics)) {key registered : String}
    {spec : ModelSpec} (hspec : (key, spec) ∈ document.models)
    (horigin : spec.origin = .requestBody) (hexcluded : key ∈ config.excludedBodies)
    (hfree : document.override? config key = none)
    (hregistered : document.registeredName? key = some registered) :
    ∃ parts, Gives (document.resolveParts config) parts ∧
      (∀ n ∈ document.namings config, n.key ≠ key) ∧
      (api.Keeps document config key registered ↔
        match document.suggestion? config key with
        | none => ∀ kind variants, spec.schema.shape ≠ .union kind variants
        | some name => parts.nameAt document config key (spec.wanted name) = registered) := by
  obtain ⟨parts, run⟩ := ApiDocument.exists_run h
  obtain ⟨m, hm, hbody⟩ := run.exists_part hspec
  have horiginOf : document.originOf? key = some .requestBody := by
    rw [run.originOf?_eq, hm, Option.map_some, hbody, horigin]
  have hname : m.className = registered := by
    rw [ApiDocument.registeredName?, ← run.className?_parts, Settlement.className?_of_get? hm]
      at hregistered
    exact Option.some.inj hregistered
  refine ⟨parts, run.parts_given,
    ApiDocument.namings_ne_of_excluded horiginOf hexcluded hfree, ?_⟩
  rw [run.keeps_iff, Registry.className?, run.get?_settled_of_not_composed (by simp [horiginOf]),
    run.get?_named_of_body hspec horigin hm hfree]
  cases document.suggestion? config key with
  | some name => simp [ModelDescriptor.asBody]
  | none =>
    have hunion := run.isUnion_iff hspec hm
    cases hisUnion : m.isUnion with
    | true =>
      obtain ⟨kind, variants, hshape⟩ := hunion.1 hisUnion
      simp [hshape]
    | false =>
      refine iff_of_true (congrArg some hname) fun kind variants hshape => ?_
      rw [hunion.2 ⟨kind, variants, hshape⟩] at hisUnion
      cases hisUnion

/-- Two bodies of which one is a union, each with the name of its operation. -/
def ApiDocument.mutedBodies : ApiDocument :=
  { title := "Bodies"
    version := "1"
    models :=
      [("Body1", { schema := ⟨.union .oneOf [⟨.scalar { kind := .string }, []⟩,
          ⟨.scalar { kind := .integer }, []⟩], []⟩, origin := .requestBody }),
        ("Body2", { schema := ⟨.scalar { kind := .string }, []⟩, origin := .requestBody })]
    operations :=
      [{ path := "/pets"
         method := "post"
         requestBody := some { schema := ⟨.reference "Body1", []⟩
                               metadata := [(operationNameKey, .string "edit pet")] } },
        { path := "/people"
          method := "post"
          requestBody := some { schema := ⟨.reference "Body2", []⟩
                                metadata := [(operationNameKey, .string "edit person")] } }] }

/-- Both are to keep their names. -/
def Config.mutedBodies : Config :=
  { excludedBodies := ["Body1", "Body2"] }

lemma ApiDocument.exists_result_mutedBodies : ∃ api statistics,
    mutedBodies.resolve .mutedBodies = .ok (api, statistics) ∧
      api.models.map (fun e => (e.2.key, e.1)) = [("Body2", "Body2")] :=
  exists_result_of (by decide +kernel)

theorem mutedBodies_keeps_iff : ∃ api statistics,
    ApiDocument.mutedBodies.resolve .mutedBodies = .ok (api, statistics) ∧
      ApiDocument.mutedBodies.override? .mutedBodies "Body2" = none ∧
      ApiDocument.mutedBodies.registeredName? "Body2" = some "Body2" ∧
      (∀ n ∈ ApiDocument.mutedBodies.namings .mutedBodies, n.key ≠ "Body2") ∧
      api.Keeps ApiDocument.mutedBodies .mutedBodies "Body2" "Body2" := by
  obtain ⟨api, statistics, h, -⟩ := ApiDocument.exists_result_mutedBodies
  have hfree : ApiDocument.mutedBodies.override? .mutedBodies "Body2" = none := by decide +kernel
  have hsuggestion : ApiDocument.mutedBodies.suggestion? .mutedBodies "Body2" = none := by
    decide +kernel
  have hregistered : ApiDocument.mutedBodies.registeredName? "Body2" = some "Body2" := by
    decide +kernel
  obtain ⟨parts, -, hnamings, hiff⟩ := keeps_iff_of_excluded h
    (List.mem_cons_of_mem _ List.mem_cons_self) rfl (by decide) hfree hregistered
  rw [hsuggestion] at hiff
  exact ⟨api, statistics, h, hfree, hregistered, hnamings, hiff.2 fun _ _ => by simp⟩

/-- The union does not keep its name: it is left out. -/
theorem not_keeps_mutedBodies : ∃ api statistics spec,
    ApiDocument.mutedBodies.resolve .mutedBodies = .ok (api, statistics) ∧
      ("Body1", spec) ∈ ApiDocument.mutedBodies.models ∧ spec.origin = .requestBody ∧
      "Body1" ∈ Config.mutedBodies.excludedBodies ∧
      ApiDocument.mutedBodies.override? .mutedBodies "Body1" = none ∧
      ApiDocument.mutedBodies.registeredName? "Body1" = some "Body1" ∧
      ¬ api.Keeps ApiDocument.mutedBodies .mutedBodies "Body1" "Body1" := by
  obtain ⟨api, statistics, h, hnames⟩ := ApiDocument.exists_result_mutedBodies
  refine ⟨api, statistics, _, h, List.mem_cons_self, rfl,
    by decide, by decide +kernel, by decide +kernel, ?_⟩
  rintro ⟨⟨e, he, hkey, -⟩, -⟩
  have hmem := List.mem_map_of_mem (f := fun e : String × ModelDescriptor => (e.2.key, e.1)) he
  rw [hnames, hkey] at hmem
  simp at hmem

end ApiTypes
