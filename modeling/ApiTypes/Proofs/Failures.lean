import ApiTypes.Proofs.FirstFault
import ApiTypes.Proofs.Outcomes
import ApiTypes.Proofs.Run
import ApiTypes.Text.Latin

/-!
# Why a run fails

A run can fail at two kinds of nodes: at references that lead to no model, and at integers for whose
bounds there is no type.  Whatever it fails with comes from such a node of the document, and a
document without any has a result.

* `Scope.scalarType_eq_error` — only integers have no type, and their bounds do not fit then.
* `ApiDocument.Sound` — references lead to models, and the bounds of integers fit.
* `ApiDocument.Explains` — an error has a cause in the document; `explains_of_resolve` — every error
  has one.
* `resolve_sound_or_explained` — **a sound document has a result, and every failure has its cause in
  the document.**
-/

namespace ApiTypes

open Resolving

/-! ## Causes at single nodes -/

/-- Only integers have no type, and only when their bounds do not fit. -/
lemma Scope.scalarType_eq_error {scope : Scope} {s : ScalarSchema} {e : ResolveError}
    (h : scope.scalarType s = .error e) :
    s.kind = .integer ∧ (∃ which value, e = .invalidBound which value none) ∧ ¬ s.BoundsFit := by
  rcases scope.scalarType_cases s with ⟨-, t, hok⟩ | ⟨e', hkind, hmisfit, herror⟩
  · cases hok.symm.trans h
  · cases herror.symm.trans h
    exact ⟨hkind, hmisfit.exists_eq, hmisfit.not_boundsFit⟩

/-! ## Causes in a document -/

namespace ApiDocument

variable {document : ApiDocument} {config : Config} {e : ResolveError}

/-- **A sound document**: all references lead to models, and the bounds of all integers fit. -/
structure Sound (document : ApiDocument) : Prop where
  references : ∀ name ∈ document.referenceNames, name ∈ Members.names document.models
  integers : ∀ s ∈ document.integers, s.BoundsFit

instance (document : ApiDocument) : Decidable document.Sound :=
  decidable_of_iff ((∀ name ∈ document.referenceNames, name ∈ Members.names document.models) ∧
      ∀ s ∈ document.integers, s.BoundsFit)
    ⟨fun ⟨hreferences, hintegers⟩ => ⟨hreferences, hintegers⟩,
      fun h => ⟨h.references, h.integers⟩⟩

/-- **The cause of an error**: a reference of the document that leads to no model, or, told with its
place, an integer of the document whose bounds do not fit. -/
def Explains (document : ApiDocument) : ResolveError → Prop
  | .unresolvedReference name =>
    name ∈ document.referenceNames ∧ name ∉ Members.names document.models
  | .invalidBound _ _ location => location.isSome ∧ ∃ s ∈ document.integers, ¬ s.BoundsFit

/-- What comes up at single nodes has its cause there. -/
lemma leaves_explained [Spelling] (document : ApiDocument) (config : Config) :
    Scope.Leaves ⟨(Registry.ofDocument document).1, config⟩ document.Explains (fun _ => True)
      document.nodes where
  scalar node hnode schema hshape location e he := by
    obtain ⟨hkind, ⟨which, value, rfl⟩, hfit⟩ := Scope.scalarType_eq_error he
    refine ⟨rfl, schema, List.mem_filterMap.2 ⟨node, hnode, ?_⟩, hfit⟩
    simp [SchemaNode.integer?, hshape, hkind]
  reference node hnode name hshape location e he := by
    have hname : name ∈ document.referenceNames :=
      List.mem_filterMap.2 ⟨node, hnode, by rw [SchemaNode.referenceName, hshape]⟩
    rw [Scope.referenceType] at he
    split at he
    · cases he
    · rename_i hnone
      injection he with he
      rw [← he]
      refine ⟨hname, ?_⟩
      rw [← Registry.mem_keys_ofDocument]
      exact Registry.className?_eq_none.1 hnone
  missingItems _ := trivial
  fallback _ _ := trivial

/-- Once models and operations are resolved there is a result. -/
lemma resolveParts_eq_error [Spelling] (h : document.resolve config = .error e) :
    document.resolveParts config = Except.error e := by
  rw [resolve] at h
  rcases hparts : document.resolveParts config with e' | ⟨parts, warnings⟩
  · rw [bind_of_error hparts] at h
    injection h with h
    rw [h]
  · obtain ⟨result, more, hfinish⟩ : ∃ result, Gives (document.finish config parts) result := by
      simp only [finish, gives_bind, gives_pure]
      exact ⟨_, _, ⟨_, rfl⟩, _, ⟨_, rfl⟩, _, ⟨_, rfl⟩, rfl⟩
    rw [bind_of_ok hparts hfinish] at h
    cases h

/-- **Every error has a cause in the document.** -/
lemma explains_of_resolve [Spelling] (h : document.resolve config = .error e) :
    document.Explains e :=
  (resolveParts_tells (document.leaves_explained config) fun _ _ => trivial).error e
    (resolveParts_eq_error h)

lemma Sound.not_explains (h : document.Sound) : ¬ document.Explains e := by
  cases e with
  | unresolvedReference name => exact fun ⟨hname, hmodel⟩ => hmodel (h.references name hname)
  | invalidBound which value location => exact fun ⟨_, s, hs, hfit⟩ => hfit (h.integers s hs)

end ApiDocument

/-- **A run fails only for a cause in its document.**  A sound document has a result.  A reference
that is told to lead to no model is one of the document, and does not.  A bound that is told to be
invalid is told with its place, and some integer of the document has bounds that do not fit. -/
theorem resolve_sound_or_explained [Spelling] (document : ApiDocument) (config : Config) :
    (document.Sound → ∃ api statistics, document.resolve config = .ok (api, statistics)) ∧
      (∀ name, document.resolve config = .error (.unresolvedReference name) →
        name ∉ Members.names document.models ∧ name ∈ document.referenceNames) ∧
      ∀ which value location,
        document.resolve config = .error (.invalidBound which value location) →
          location.isSome = true ∧ ∃ s ∈ document.integers, ¬ s.BoundsFit := by
  refine ⟨fun hsound => ?_, fun name h => ?_, fun which value location h => ?_⟩
  · rcases hresult : document.resolve config with e | ⟨api, statistics⟩
    · exact absurd (ApiDocument.explains_of_resolve hresult) hsound.not_explains
    · exact ⟨api, statistics, rfl⟩
  · obtain ⟨hname, hmodel⟩ := ApiDocument.explains_of_resolve h
    exact ⟨hmodel, hname⟩
  · exact ApiDocument.explains_of_resolve h

/-! ## Documents that fail -/

namespace ApiDocument

/-- A document where a cookie leads to models that there are none of. -/
def lostOwners : ApiDocument :=
  { title := "Pets"
    version := "1"
    models := [("pet", { schema := ⟨.scalar { kind := .string }, []⟩ })]
    operations :=
      [{ path := "/pets"
         method := "get"
         parameters := [{ name := "owners"
                          location := .cookie
                          schema := ⟨.array (some ⟨.reference "owner", []⟩), []⟩ }] }] }

/-- A document where the values of a map are to be at least zero, and below zero. -/
def crossedAges : ApiDocument :=
  { title := "Ages"
    version := "1"
    models := [("ages", { schema := ⟨.map (.schema ⟨.scalar
      { kind := .integer, minimum := some 0, maximum := some 0, exclusiveMaximum := true },
      []⟩), []⟩ })] }

/-- A failed run whose error is looked at ends in that error. -/
lemma resolve_eq_error_of [Spelling] {document : ApiDocument} {config : Config} {e : ResolveError}
    (h : (match document.resolve config with
      | .error e => some e
      | .ok _ => none) = some e) : document.resolve config = .error e := by
  split at h
  · rename_i e' hresult
    rw [hresult, Option.some.inj h]
  · cases h

end ApiDocument

theorem petShop_sound_or_explained :
    (ApiDocument.petShop.Sound ∧
      ∃ api statistics, ApiDocument.petShop.resolve {} = .ok (api, statistics)) ∧
    (ApiDocument.lostOwners.resolve {} = .error (.unresolvedReference "owner") ∧
      "owner" ∉ Members.names ApiDocument.lostOwners.models ∧
      "owner" ∈ ApiDocument.lostOwners.referenceNames) ∧
    (ApiDocument.crossedAges.resolve {} =
        .error (.invalidBound .maximum (-1) (some (valuesLocation "ages"))) ∧
      ∃ s ∈ ApiDocument.crossedAges.integers, ¬ s.BoundsFit) := by
  have hsound : ApiDocument.petShop.Sound := by decide +kernel
  have hlost : ApiDocument.lostOwners.resolve {} = .error (.unresolvedReference "owner") :=
    ApiDocument.resolve_eq_error_of (by decide +kernel)
  have hcrossed : ApiDocument.crossedAges.resolve {} =
      .error (.invalidBound .maximum (-1) (some (valuesLocation "ages"))) :=
    ApiDocument.resolve_eq_error_of (by decide +kernel)
  refine ⟨⟨hsound, (resolve_sound_or_explained ApiDocument.petShop {}).1 hsound⟩, ⟨hlost, ?_⟩,
    hcrossed, ?_⟩
  · exact (resolve_sound_or_explained ApiDocument.lostOwners {}).2.1 "owner" hlost
  · exact ((resolve_sound_or_explained ApiDocument.crossedAges {}).2.2 _ _ _ hcrossed).2

end ApiTypes
