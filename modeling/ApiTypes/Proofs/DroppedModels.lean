import ApiTypes.Proofs.FinalNames
import ApiTypes.Proofs.Omission
import ApiTypes.Proofs.ReferenceIntegrity
import ApiTypes.Text.Latin

/-!
# Which models of a document are left out

A model is left out for one of two reasons: it is a union that stood in a body or a response and
that no operation has a name for, or it is a lifted union that nothing refers to any more once the
former are gone.

* `ApiDocument.Unnamed` — the first reason, read off the document.
* `ApiDocument.LeftOut` — the second one, as a least set of keys, and what both together say of a
  result.
* `dropped_models` — **these are all reasons**: for the rounds on any registry, and for whole runs.
-/

namespace ApiTypes

open Resolving
open Settlement (round missing)

/-- A union from a body or a response that no operation has a name for. -/
def ApiDocument.Unnamed [Spelling] (document : ApiDocument) (config : Config) (key : String) :
    Prop :=
  ∃ spec, (key, spec) ∈ document.models ∧
    (spec.origin = .requestBody ∨ spec.origin = .inlineResponse) ∧
    (∃ kind variants, spec.schema.shape = .union kind variants) ∧
    document.override? config key = none ∧ document.suggestion? config key = none

/-- **What is left out of a result**, with the lifted unions among it. -/
structure ApiDocument.LeftOut [Spelling] (document : ApiDocument) (config : Config)
    (parts : ResolvedDocument) (api : TypedApi) (keys : Set String) : Prop where
  /-- The lifted unions are the least set that has each of them to which, once unnamed models are
  gone, no operation and only the union itself and members of the set refer. -/
  isLeast : IsLeast {keys | parts.registry.Closed {key | document.Unnamed config key}
    (parts.operations.flatMap (·.references)) keys} keys
  composed : ∀ key ∈ keys, document.originOf? key = some .composed
  not_mem_iff : ∀ key ∈ Members.names document.models,
    key ∉ api.models.map (·.2.key) ↔ document.Unnamed config key ∨ key ∈ keys
  /-- No model that is left referred to one of them, nor did an operation: nothing is lost. -/
  not_mem_references : ∀ key ∈ keys,
    (∀ e ∈ parts.registry.models, e.1 ∈ api.models.map (·.2.key) → key ∉ e.2.references) ∧
      ∀ o ∈ parts.operations, key ∉ o.references
  not_mem_references_result : ∀ key ∈ keys,
    (∀ e ∈ api.models, key ∉ e.2.references) ∧ ∀ o ∈ api.operations, key ∉ o.references

/-! ## Models that were there before -/

/-- Closed sets are the same when the models that are gone are taken out. -/
lemma Registry.closed_iff_of_gone {r r' : Registry} {gone keys : Set String}
    {fromOperations : List String}
    (hkept : ∀ {key m}, r.get? key = some m → key ∉ gone → ∃ m', r'.get? key = some m' ∧
      m'.origin = m.origin ∧ m'.references = m.references)
    (hsource : ∀ {key m'}, r'.get? key = some m' → key ∉ gone ∧ ∃ m, r.get? key = some m ∧
      m'.origin = m.origin ∧ m'.references = m.references)
    (hcomposed : ∀ {key m}, r.get? key = some m → m.origin = .composed → key ∉ gone) :
    r'.Closed ∅ fromOperations keys ↔ r.Closed gone fromOperations keys := by
  constructor
  · intro h key m hm horigin hoperations hrefers
    obtain ⟨m', hm', horigin', -⟩ := hkept hm (hcomposed hm horigin)
    refine h key m' hm' (horigin'.trans horigin) hoperations fun other o' ho' _ href => ?_
    obtain ⟨hstays, o, ho, -, heq⟩ := hsource ho'
    exact hrefers other o ho hstays (heq ▸ href)
  · intro h key m' hm' horigin hoperations hrefers
    obtain ⟨-, m, hm, horigin', -⟩ := hsource hm'
    refine h key m hm (horigin'.symm.trans horigin) hoperations fun other o ho hstays href => ?_
    obtain ⟨o', ho', -, heq⟩ := hkept ho hstays
    exact hrefers other o' ho' id (heq.symm ▸ href)

namespace ApiDocument.Run

variable [Spelling] {document : ApiDocument} {config : Config} {parts : ResolvedDocument}
  {api : TypedApi} {statistics : Statistics} {key : String} {m : ModelDescriptor}

/-- **Taking suggested names leaves out the unnamed models**, and no others. -/
lemma get?_named_eq_none_iff (run : document.Run config parts api statistics)
    (hm : parts.registry.get? key = some m) :
    (parts.named document config).registry.get? key = none ↔ document.Unnamed config key := by
  obtain ⟨spec, hspec, horigin⟩ := run.exists_spec hm
  have hunion := run.isUnion_iff hspec hm
  obtain ⟨hmoves, hturn, heq⟩ := Settlement.get?_applySuggestions
    (s := ⟨parts.registry, 0, 0, []⟩) run.parts_consistent
    (Scope.suggestions ⟨parts.registry, config⟩ document.operations) hm
  rw [ResolvedDocument.named, heq,
    Settlement.get?_carryOut_eq_none_iff (hmoves.consistent run.parts_consistent) hturn,
    Settlement.ruling_eq_drop_iff, hunion, horigin, run.isForced_eq,
    run.name?_eq]
  constructor
  · rintro ⟨horigin, hshape, hforced, hname⟩
    rw [Option.or_eq_none_iff] at hname
    exact ⟨spec, hspec, horigin, hshape, hname⟩
  · rintro ⟨spec', hspec', hsynthetic, hshape, hoverride, hsuggestion⟩
    obtain rfl : spec' = spec :=
      congrArg Prod.snd (List.inj_on_of_nodup_map document.nodup_keys hspec' hspec rfl)
    exact ⟨hsynthetic, hshape, by rw [hoverride]; rfl, by rw [hoverride, hsuggestion]; rfl⟩

/-- The lifted unions that can be left out are the same before suggested names are taken. -/
lemma closed_named_iff (run : document.Run config parts api statistics)
    (fromOperations : List String) (keys : Set String) :
    (parts.named document config).registry.Closed ∅ fromOperations keys ↔
      parts.registry.Closed {key | document.Unnamed config key} fromOperations keys := by
  have hview : ∀ {key m m'}, parts.registry.get? key = some m →
      (parts.named document config).registry.get? key = some m' →
      m'.origin = m.origin ∧ m'.references = m.references := fun hm hm' =>
    ⟨run.named_moves.view_eq ModelDescriptor.stable_origin run.parts_consistent hm hm',
      run.named_moves.view_eq stable_references run.parts_consistent hm hm'⟩
  refine Registry.closed_iff_of_gone (fun {key m} hm hstays => ?_) (fun {key m'} hm' => ?_)
    (fun {key m} hm horigin => ?_)
  · obtain ⟨m', hm'⟩ := Option.ne_none_iff_exists'.1
      (mt (run.get?_named_eq_none_iff hm).1 hstays)
    exact ⟨m', hm', hview hm hm'⟩
  · obtain ⟨m, hm⟩ := run.named_moves.exists_get? hm'
    refine ⟨fun hgone => ?_, m, hm, hview hm hm'⟩
    rw [(run.get?_named_eq_none_iff hm).2 hgone] at hm'
    cases hm'
  · rintro ⟨spec, hspec, hsynthetic, -⟩
    obtain ⟨m', hm', horigin'⟩ := run.exists_part hspec
    obtain rfl := Option.some.inj (hm.symm.trans hm')
    rw [← horigin', horigin] at hsynthetic
    simp at hsynthetic

lemma originOf?_named (run : document.Run config parts api statistics)
    (hm : (parts.named document config).registry.get? key = some m) :
    document.originOf? key = some m.origin := by
  obtain ⟨m', hm'⟩ := run.named_moves.exists_get? hm
  rw [run.originOf?_eq, hm', Option.map_some,
    run.named_moves.view_eq ModelDescriptor.stable_origin run.parts_consistent hm' hm]

/-! ## Models that something needs -/

lemma needed_omissions (run : document.Run config parts api statistics) :
    Settlement.Omissions (parts.operations.flatMap (·.references)) (parts.named document config)
      (parts.needed document config) :=
  Settlement.dropUnreferenced_omissions _ run.named_consistent.keys_nodup

lemma needed_moves (run : document.Run config parts api statistics) :
    Settlement.Moves (parts.named document config) (parts.needed document config) :=
  Settlement.dropUnreferenced_moves run.named_consistent _

lemma needed_consistent (run : document.Run config parts api statistics) :
    (parts.needed document config).registry.Consistent :=
  run.needed_moves.consistent run.named_consistent

/-- The models that are left are those that something needs. -/
lemma keys_eq_needed (run : document.Run config parts api statistics) :
    api.models.map (·.2.key) = (parts.needed document config).registry.keys := by
  have hview := Settlement.view_dropMarkers ModelDescriptor.stable_origin
    (parts.needed document config)
  rw [run.keys_eq, parts.settled_eq, ← Registry.names_view (·.origin), hview, Registry.names_view]

/-- They refer to the same models as before. -/
lemma references_needed (run : document.Run config parts api statistics)
    (hm : parts.registry.get? key = some m) {m' : ModelDescriptor}
    (hm' : (parts.needed document config).registry.get? key = some m') :
    m'.references = m.references := by
  have hmoves : Settlement.Moves _ _ := run.named_moves.trans run.needed_moves
  exact hmoves.view_eq stable_references run.parts_consistent hm hm'

lemma origin_needed (run : document.Run config parts api statistics)
    {e : String × ModelDescriptor} (he : e ∈ api.models)
    (hm : (parts.needed document config).registry.get? e.2.key = some m) :
    m.origin = e.2.origin := by
  obtain ⟨left, m', -, -, -, heq, hm', -, -, hstable⟩ := run.exists_source he
  have hmoves : Settlement.Moves _ _ := run.named_moves.trans run.needed_moves
  have hview := hmoves.view_eq ModelDescriptor.stable_origin run.parts_consistent hm' hm
  rw [heq]
  exact hview.trans (hstable _ ModelDescriptor.stable_origin).symm

lemma originOf?_of_missing (run : document.Run config parts api statistics)
    (hkey : key ∈ (parts.named document config).missing (parts.needed document config)) :
    document.originOf? key = some .composed := by
  obtain ⟨⟨m, hm, horigin⟩, -⟩ := run.needed_omissions.of_missing hkey
  rw [run.originOf?_named (run.named_consistent.get?_eq_some.2 hm), horigin]

lemma not_mem_result_iff (run : document.Run config parts api statistics)
    (hkey : key ∈ Members.names document.models) :
    key ∉ api.models.map (·.2.key) ↔ document.Unnamed config key ∨
      key ∈ (parts.named document config).missing (parts.needed document config) := by
  obtain ⟨spec, hspec⟩ := Members.mem_names.1 hkey
  obtain ⟨m, hm, -⟩ := run.exists_part hspec
  rw [run.keys_eq_needed, ← run.get?_named_eq_none_iff hm]
  constructor
  · intro hgone
    cases hnamed : (parts.named document config).registry.get? key with
    | none => exact Or.inl rfl
    | some m' => exact Or.inr ⟨Registry.mem_keys_iff.2 ⟨m', hnamed⟩, hgone⟩
  · rintro (hgone | hmissing)
    · exact fun hleft => Members.get?_eq_none.1 hgone (run.needed_moves.keys_subset hleft)
    · exact hmissing.2

lemma not_mem_references_of_missing (run : document.Run config parts api statistics)
    (hkey : key ∈ (parts.named document config).missing (parts.needed document config)) :
    (∀ e ∈ parts.registry.models, e.1 ∈ api.models.map (·.2.key) → key ∉ e.2.references) ∧
      ∀ o ∈ parts.operations, key ∉ o.references := by
  constructor
  · intro e he hleft
    rw [run.keys_eq_needed] at hleft
    obtain ⟨m', hm'⟩ := Registry.mem_keys_iff.1 hleft
    rw [← run.references_needed (run.parts_consistent.get?_eq_some.2 he) hm']
    exact run.needed_omissions.not_mem_references_of_missing hkey (Members.mem_of_get? hm')
  · intro o ho hrefers
    exact (run.needed_omissions.of_missing hkey).2
      (Settlement.mem_referenced.2 (Or.inr (List.mem_flatMap.2 ⟨o, ho, hrefers⟩)))

lemma className?_isSome_iff (run : document.Run config parts api statistics) :
    ((parts.settled document config).registry.className? key).isSome = true ↔
      key ∈ api.models.map (·.2.key) := by
  rw [run.keys_eq, Option.isSome_iff_ne_none, ne_eq, Registry.className?_eq_none, not_not]

/-- A model of the result refers to the models that it referred to before, as far as they are
left. -/
lemma mem_references_result (run : document.Run config parts api statistics)
    {e : String × ModelDescriptor} (he : e ∈ api.models) :
    ∃ m, (e.2.key, m) ∈ parts.registry.models ∧ ∀ key, key ∈ e.2.references ↔
      key ∈ m.references ∧ key ∈ api.models.map (·.2.key) := by
  obtain ⟨left, m, -, -, -, heq, hm, -, -, hstable⟩ := run.exists_source he
  have hcurrent : ∀ t ∈ left.types, t.Current parts.registry.className? := by
    rw [hstable _ stable_types]
    exact run.models_current _ (Members.mem_of_get? hm)
  refine ⟨m, Members.mem_of_get? hm, fun key => ?_⟩
  rw [← run.className?_isSome_iff, heq, ModelDescriptor.mem_references_finished hcurrent,
    hstable _ stable_references]

/-- So does an operation. -/
lemma mem_references_operation (run : document.Run config parts api statistics)
    {o : OperationDescriptor} (ho : o ∈ parts.operations) :
    key ∈ (o.relabel (parts.settled document config).registry.className?).references ↔
      key ∈ o.references ∧ key ∈ api.models.map (·.2.key) := by
  rw [← run.className?_isSome_iff,
    OperationDescriptor.mem_references_relabel (run.operations_current o ho)]

lemma leftOut (run : document.Run config parts api statistics) :
    document.LeftOut config parts api
      ((parts.named document config).missing (parts.needed document config)) where
  isLeast := by
    have hleast := run.needed_omissions.isLeast_missing run.named_consistent.keys_nodup
      (Settlement.unreferenced_dropUnreferenced _ _)
    simpa only [run.closed_named_iff] using hleast
  composed _ hkey := run.originOf?_of_missing hkey
  not_mem_iff _ hkey := run.not_mem_result_iff hkey
  not_mem_references _ hkey := run.not_mem_references_of_missing hkey
  not_mem_references_result key hkey := by
    obtain ⟨hmodels, hoperations⟩ := run.not_mem_references_of_missing hkey
    constructor
    · intro e he hrefers
      obtain ⟨m, hm, hiff⟩ := run.mem_references_result he
      exact hmodels _ hm (List.mem_map_of_mem he) ((hiff key).1 hrefers).1
    · intro o ho hrefers
      obtain ⟨o', ho', rfl⟩ := run.mem_operations.1 ho
      exact hoperations o' ho' ((run.mem_references_operation ho').1 hrefers).1

end ApiDocument.Run

/-! ## The whole -/

/-- **Exactly the right models are left out.**  On any registry the rounds come to an end, with the
least closed set of lifted unions missing, to which nothing that is left refers.  Of a document
exactly the unnamed models are missing in the result, and such a least set. -/
theorem dropped_models [Spelling] :
    (∀ (s : Settlement) (fromOperations : List String), s.registry.keys.Nodup →
      (∃ n ≤ s.registry.size,
        s.dropUnreferenced fromOperations = (round fromOperations)^[n] s) ∧
      (s.dropUnreferenced fromOperations).unreferenced fromOperations = [] ∧
      IsLeast {keys | s.registry.Closed ∅ fromOperations keys}
        (s.missing (s.dropUnreferenced fromOperations)) ∧
      ∀ key ∈ s.missing (s.dropUnreferenced fromOperations), key ∉ fromOperations ∧
        ∀ e ∈ (s.dropUnreferenced fromOperations).registry.models, key ∉ e.2.references) ∧
    ∀ (document : ApiDocument) (config : Config) (api : TypedApi) (statistics : Statistics),
      document.resolve config = .ok (api, statistics) →
      ∃ parts keys, Gives (document.resolveParts config) parts ∧
        document.LeftOut config parts api keys := by
  constructor
  · intro s fromOperations hs
    have homissions := Settlement.dropUnreferenced_omissions fromOperations hs
    have hend := Settlement.unreferenced_dropUnreferenced s fromOperations
    refine ⟨Settlement.exists_rounds s fromOperations, hend, homissions.isLeast_missing hs hend,
      fun key hkey => ⟨fun hoperation => ?_, fun e he => ?_⟩⟩
    · exact (homissions.of_missing hkey).2 (Settlement.mem_referenced.2 (Or.inr hoperation))
    · exact homissions.not_mem_references_of_missing hkey he
  · intro document config api statistics h
    obtain ⟨parts, run⟩ := ApiDocument.exists_run h
    exact ⟨parts, _, run.parts_given, run.leftOut⟩

/-- A document in which one union goes after the other: a body that no operation has a name for, a
lifted union that only the body refers to, one that only this one refers to, and one that only
refers to itself.  The operation needs the last one. -/
def ApiDocument.looseUnions : ApiDocument :=
  { title := "Unions"
    version := "1"
    models :=
      [("pet", { schema := ⟨.scalar { kind := .string }, []⟩ }),
        ("OneOfPetThird", { schema := ⟨.union .oneOf [⟨.reference "pet", []⟩], []⟩
                            origin := .composed }),
        ("OneOfPetSecond", { schema := ⟨.union .oneOf [⟨.reference "pet", []⟩,
          ⟨.reference "OneOfPetThird", []⟩], []⟩, origin := .composed }),
        ("first_body", { schema := ⟨.union .oneOf [⟨.reference "pet", []⟩,
          ⟨.reference "OneOfPetSecond", []⟩], []⟩, origin := .requestBody }),
        ("AnyOfPetSelf", { schema := ⟨.union .anyOf [⟨.reference "pet", []⟩,
          ⟨.reference "AnyOfPetSelf", []⟩], []⟩, origin := .composed }),
        ("OneOfPetKept", { schema := ⟨.union .oneOf [⟨.reference "pet", []⟩], []⟩
                           origin := .composed })]
    operations :=
      [{ path := "/pets"
         method := "post"
         requestBody := some { schema := ⟨.reference "first_body", []⟩ }
         responses := [("200", { schema := some ⟨.reference "OneOfPetKept", []⟩ })] }] }

lemma ApiDocument.exists_result_looseUnions : ∃ api statistics,
    looseUnions.resolve {} = .ok (api, statistics) ∧
      api.models.map (·.2.key) = ["pet", "OneOfPetKept"] :=
  exists_result_of (by decide +kernel)

theorem looseUnions_dropped_models :
    (∃ n ≤ (Registry.ofDocument ApiDocument.looseUnions).1.size,
      (Settlement.mk (Registry.ofDocument ApiDocument.looseUnions).1 0 0 []).dropUnreferenced [] =
        (round [])^[n] ⟨(Registry.ofDocument ApiDocument.looseUnions).1, 0, 0, []⟩) ∧
    ∃ api statistics, ApiDocument.looseUnions.resolve {} = .ok (api, statistics) ∧
      api.models.map (·.2.key) = ["pet", "OneOfPetKept"] ∧
      ∃ parts keys, Gives (ApiDocument.looseUnions.resolveParts {}) parts ∧
        ApiDocument.looseUnions.LeftOut {} parts api keys := by
  obtain ⟨api, statistics, h, hkeys⟩ := ApiDocument.exists_result_looseUnions
  refine ⟨?_, api, statistics, h, hkeys, ?_⟩
  · exact (dropped_models.1 ⟨_, 0, 0, []⟩ [] Registry.ofDocument_consistent.keys_nodup).1
  · exact dropped_models.2 _ _ _ _ h

end ApiTypes
