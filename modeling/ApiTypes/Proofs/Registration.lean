import ApiTypes.Proofs.Models
import ApiTypes.Resolution.Document

/-!
# From the document to the registry

Registering the keys of a document, installing the models that were made for them, and giving
map-like models their properties.

* `ofDocument_consistent`, `ofDocument_legalNames`, `origins_ofDocument` — the registered keys.
* `get?_installAll`, `titles_installAll` — what installing changes, and what it does not.
* `withMapLike_eq` — the properties of map-like objects come in by key; `frame_withMapLike` — and
  the rest of a model is left.
-/

namespace ApiTypes

open Resolving

namespace Registry

variable {r : Registry} {specs : List (String × ModelSpec)} {ms : List ModelDescriptor}
  {document : ApiDocument}

/-! ## Registering -/

section Registering

variable [Spelling]

lemma registerAll_cons (key : String) (spec : ModelSpec)
    (rest : List (String × ModelSpec)) (r : Registry) : (registerAll ((key, spec) :: rest) r).1 =
      (registerAll rest (r.register key spec.origin).1).1 :=
  rfl

lemma registerAll_consistent (h : r.Consistent) : (registerAll specs r).1.Consistent := by
  induction specs generalizing r with
  | nil => exact h
  | cons e rest ih => exact ih (h.register e.1 e.2.origin)

lemma registerAll_legalNames (h : r.LegalNames) : (registerAll specs r).1.LegalNames := by
  induction specs generalizing r with
  | nil => exact h
  | cons e rest ih => exact ih (h.register e.1 e.2.origin)

lemma origins_registerAll (hnd : (r.keys ++ Members.names specs).Nodup) :
    (registerAll specs r).1.view (·.origin) =
      r.view (·.origin) ++ specs.map fun e => (e.1, e.2.origin) := by
  induction specs generalizing r with
  | nil => simp [registerAll]
  | cons e rest ih =>
    have hfresh : e.1 ∉ r.keys := fun hmem =>
      (List.nodup_append.1 hnd).2.2 _ hmem _ (by simp [Members.names]) rfl
    rw [registerAll_cons, ih, register_of_not_mem hfresh]
    · simp [view]
    · rw [register_of_not_mem hfresh]
      simpa [keys, Members.names] using hnd

lemma mem_keys_registerAll {k : String} :
    k ∈ (registerAll specs r).1.keys ↔ k ∈ r.keys ∨ k ∈ Members.names specs := by
  induction specs generalizing r with
  | nil => simp [registerAll, Members.names]
  | cons e rest ih =>
    rw [registerAll_cons, ih, mem_keys_register]
    simp [Members.names, or_assoc]

/-- The registered keys are those of the document. -/
lemma mem_keys_ofDocument {k : String} :
    k ∈ (ofDocument document).1.keys ↔ k ∈ Members.names document.models := by
  rw [ofDocument, mem_keys_registerAll]
  simp [keys, empty, Members.names]

lemma ofDocument_consistent : (ofDocument document).1.Consistent :=
  registerAll_consistent consistent_empty

lemma ofDocument_legalNames : (ofDocument document).1.LegalNames :=
  registerAll_legalNames fun _ he => (List.not_mem_nil he).elim

lemma origins_ofDocument :
    (ofDocument document).1.view (·.origin) = document.models.map fun e => (e.1, e.2.origin) :=
  origins_registerAll document.nodup_keys

/-- A registered model has no types yet. -/
lemma types_registerAll (h : ∀ e ∈ r.models, e.2.types = []) :
    ∀ e ∈ (registerAll specs r).1.models, e.2.types = [] := by
  induction specs generalizing r with
  | nil => exact h
  | cons e rest ih =>
    rw [registerAll_cons]
    refine ih ?_
    by_cases hk : e.1 ∈ r.keys
    · rwa [register_of_mem hk]
    · rw [register_of_not_mem hk]
      intro e' he'
      rcases List.mem_append.1 he' with he' | he'
      · exact h e' he'
      · rw [List.mem_singleton.1 he']
        rfl

end Registering

/-! ## Installing -/

/-- Installing changes neither the class name nor the origin of a model. -/
lemma titles_installAll : (ms.foldl install r).titles = r.titles := by
  induction ms generalizing r with
  | nil => rfl
  | cons m ms ih =>
    rw [List.foldl_cons, ih]
    exact view_update fun _ => rfl

lemma installAll_consistent (h : r.Consistent) : (ms.foldl install r).Consistent := by
  induction ms generalizing r with
  | nil => exact h
  | cons m ms ih => exact ih (h.install m)

lemma get?_installAll_of_not_mem {k : String} (hk : k ∉ ms.map (·.key)) :
    (ms.foldl install r).get? k = r.get? k := by
  induction ms generalizing r with
  | nil => rfl
  | cons m ms ih =>
    have hk' : k ≠ m.key ∧ k ∉ ms.map (·.key) := by simpa using hk
    rw [List.foldl_cons, ih hk'.2, get?_install, if_neg hk'.1]

/-- An installed model has the class name and the origin that were registered for its key. -/
lemma get?_installAll {m : ModelDescriptor} (hnd : (ms.map (·.key)).Nodup) (hm : m ∈ ms) :
    (ms.foldl install r).get? m.key =
      (r.get? m.key).map fun old =>
        { m with className := old.className, origin := old.origin } := by
  induction ms generalizing r with
  | nil => cases hm
  | cons m' ms ih =>
    obtain ⟨hfresh, hnd⟩ := List.nodup_cons.1 hnd
    rw [List.foldl_cons]
    rcases List.mem_cons.1 hm with rfl | hm
    · rw [get?_installAll_of_not_mem hfresh, get?_install, if_pos rfl]
    · have hne : m.key ≠ m'.key := fun heq => hfresh (List.mem_map.2 ⟨m, hm, heq⟩)
      rw [ih hnd hm, get?_install, if_neg hne]

/-- What holds of all registered models and of all that are installed holds of all models after
that, when it does not depend on class name and origin. -/
lemma forall_installAll {P : ModelDescriptor → Prop}
    (hP : ∀ m className origin, P m → P { m with className := className, origin := origin })
    (h : ∀ e ∈ r.models, P e.2) (hms : ∀ m ∈ ms, P m) :
    ∀ e ∈ (ms.foldl install r).models, P e.2 := by
  induction ms generalizing r with
  | nil => exact h
  | cons m ms ih =>
    obtain ⟨hm, hms⟩ := List.forall_mem_cons.1 hms
    refine ih ?_ hms
    intro e he
    obtain ⟨e', he', rfl⟩ := List.mem_map.1 he
    dsimp only
    split
    · exact hP m _ _ hm
    · exact h e' he'

/-! ## Map-like models -/

lemma withMapLike_eq (r : Registry) (memo : MapLikeMemo) :
    r.withMapLike memo = r.changeModels fun k m => m.withMapLike memo k :=
  rfl

/-- A map-like object brings properties and a flag, and leaves the rest of a model. -/
lemma frame_withMapLike {α : Type} (view : ModelDescriptor → α)
    (h : ∀ m properties flags,
      view { m with properties := properties, flags := flags } = view m)
    (memo : MapLikeMemo) (k : String) (m : ModelDescriptor) :
    view (m.withMapLike memo k) = view m := by
  rw [ModelDescriptor.withMapLike]
  split
  · exact h ..
  · rfl

/-- Only the flag of map-like models may be new. -/
lemma mem_flags_withMapLike {memo : MapLikeMemo} {k : String} {m : ModelDescriptor} {g : ModelFlag}
    (hg : g ≠ .mapLike) : g ∈ (m.withMapLike memo k).flags ↔ g ∈ m.flags := by
  rw [ModelDescriptor.withMapLike]
  split
  · simp [ModelFlags.mem_set, hg]
  · rfl

/-- The types in a model are current after it got the properties of a map-like object. -/
lemma types_withMapLike {classNames : String → Option String} {memo : MapLikeMemo}
    (hmemo : memo.Current classNames) {k : String} {m : ModelDescriptor}
    (hm : ∀ t ∈ m.types, t.Current classNames) :
    ∀ t ∈ (m.withMapLike memo k).types, t.Current classNames := by
  rw [ModelDescriptor.withMapLike]
  split
  · rename_i properties hfound
    intro t ht
    rw [ModelDescriptor.types] at ht hm
    rcases List.mem_append.1 ht with ht | ht
    · rcases List.mem_append.1 ht with ht | ht
      · exact hm t (List.mem_append_left _ (List.mem_append_left _ ht))
      · obtain ⟨p, hp, ht⟩ := List.mem_flatMap.1 ht
        exact hmemo _ (Members.mem_of_get? hfound) p hp t ht
    · exact hm t (List.mem_append_right _ ht)
  · exact hm

lemma Consistent.withMapLike (h : r.Consistent) (memo : MapLikeMemo) :
    (r.withMapLike memo).Consistent :=
  h.changeModels (fun e _ => frame_withMapLike (·.key) (fun _ _ _ => rfl) memo e.1 e.2)
    (fun e _ => frame_withMapLike (·.className) (fun _ _ _ => rfl) memo e.1 e.2)

lemma titles_withMapLike (memo : MapLikeMemo) : (r.withMapLike memo).titles = r.titles :=
  view_changeModels
    (frame_withMapLike (fun m => (m.className, m.origin)) (fun _ _ _ => rfl) memo)

end Registry

end ApiTypes
