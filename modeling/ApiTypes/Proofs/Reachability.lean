import ApiTypes.Proofs.DroppedModels
import ApiTypes.Text.Latin
import Mathlib.Data.Set.Finite.List
import Mathlib.Order.Preorder.Finite

/-!
# How lifted unions are reached

Whether a lifted union is left out depends on what refers to it, not on how it is reached: two
unions that refer to each other keep each other, and all that they lead to.

* `TypedApi.Reachable` — references lead to a model from an operation, or from one that was not
  lifted.
* `TypedApi.OnCycle` — references lead from a model through another one back to it.
* `reached_of_mem` — **a lifted union is reachable, or it is reached from a cycle of such unions.**
  `not_reachable_twinUnions` — a document where nothing else holds it.
-/

namespace ApiTypes

open Relation (ReflTransGen)

namespace TypedApi

/-- A model refers to another, or to itself. -/
def Refers (api : TypedApi) (key other : String) : Prop :=
  ∃ e ∈ api.models, e.2.key = key ∧ other ∈ e.2.references

/-- An operation refers to the model, or the model was not lifted. -/
def IsRoot (api : TypedApi) (key : String) : Prop :=
  (∃ o ∈ api.operations, key ∈ o.references) ∨
    ∃ e ∈ api.models, e.2.key = key ∧ e.2.origin ≠ .composed

/-- References lead to the model from an operation, or from a model that was not lifted. -/
def Reachable (api : TypedApi) (key : String) : Prop :=
  ∃ root, api.IsRoot root ∧ ReflTransGen api.Refers root key

/-- References lead from the model to another one, which refers to it. -/
def OnCycle (api : TypedApi) (key : String) : Prop :=
  ∃ other, other ≠ key ∧ ReflTransGen api.Refers key other ∧ api.Refers other key

end TypedApi

/-! ## Cycles -/

/-- Where everything in a finite set has something else in the set before it, all of it comes from
cycles. -/
lemma exists_cycle_of_finite {α : Type} {R : α → α → Prop} {s : Set α} (hs : s.Finite)
    (hbefore : ∀ a ∈ s, ∃ b ∈ s, b ≠ a ∧ R b a) {a : α} (ha : a ∈ s) :
    ∃ c ∈ s, (∃ b, b ≠ c ∧ ReflTransGen R c b ∧ R b c) ∧ ReflTransGen R c a := by
  let _ : Preorder α :=
    { le := ReflTransGen R, le_refl := fun _ => .refl, le_trans := fun _ _ _ => .trans }
  obtain ⟨c, hca, hc⟩ := hs.exists_le_minimal ha
  obtain ⟨b, hb, hne, hbc⟩ := hbefore c hc.prop
  -- nothing in the set lies strictly before `c`, so `c` comes before what lies before it
  exact ⟨c, hc.prop, ⟨b, hne, hc.le_of_le hb (.single hbc), hbc⟩, hca⟩

namespace ApiDocument.Run

variable {document : ApiDocument} {config : Config} {parts : ResolvedDocument} {api : TypedApi}
  {statistics : Statistics}

/-- **What a lifted union is left for**: an operation or another model that is left refers to it. -/
lemma referenced_of_composed [Spelling] (run : document.Run config parts api statistics)
    {e : String × ModelDescriptor} (he : e ∈ api.models) (horigin : e.2.origin = .composed) :
    (∃ o ∈ api.operations, e.2.key ∈ o.references) ∨
      ∃ e' ∈ api.models, e'.2.key ≠ e.2.key ∧ e.2.key ∈ e'.2.references := by
  have hkey : e.2.key ∈ api.models.map (·.2.key) := List.mem_map_of_mem he
  have hthere := hkey
  rw [run.keys_eq_needed] at hthere
  obtain ⟨m, hm⟩ := Registry.mem_keys_iff.1 hthere
  have hmem := Members.mem_of_get? hm
  have hreferenced : e.2.key ∈ (parts.needed document config).referenced
      (parts.operations.flatMap (·.references)) := by
    refine Decidable.byContradiction fun hfree => ?_
    have hfound := Settlement.mem_unreferenced.2
      ⟨m, hmem, (run.origin_needed he hm).trans horigin, hfree⟩
    rw [ResolvedDocument.needed, Settlement.unreferenced_dropUnreferenced] at hfound
    cases hfound
  rcases Settlement.mem_referenced.1 hreferenced with ⟨⟨other, m'⟩, he', hne, hrefers⟩ | hoperation
  · have hother := Settlement.mem_keys_of_mem_models he'
    rw [← run.keys_eq_needed] at hother
    obtain ⟨e'', he'', rfl⟩ := List.mem_map.1 hother
    obtain ⟨m'', hm'', hiff⟩ := run.mem_references_result he''
    have heq := run.references_needed (run.parts_consistent.get?_eq_some.2 hm'')
      (run.needed_consistent.get?_eq_some.2 he')
    exact Or.inr ⟨e'', he'', hne, (hiff _).2 ⟨heq ▸ hrefers, hkey⟩⟩
  · obtain ⟨o, ho, hrefers⟩ := List.mem_flatMap.1 hoperation
    exact Or.inl ⟨_, run.mem_operations.2 ⟨o, ho, rfl⟩,
      (run.mem_references_operation ho).2 ⟨hrefers, hkey⟩⟩

end ApiDocument.Run

/-- **A lifted union in a result is reachable**, or it is reached from a lifted union that lies on
a cycle with another model. -/
theorem reached_of_mem [Spelling] {document : ApiDocument} {config : Config} {api : TypedApi}
    {statistics : Statistics} (h : document.resolve config = .ok (api, statistics)) :
    ∀ e ∈ api.models, e.2.origin = .composed → api.Reachable e.2.key ∨
      ∃ start ∈ api.models, start.2.origin = .composed ∧ api.OnCycle start.2.key ∧
        ReflTransGen api.Refers start.2.key e.2.key := by
  obtain ⟨parts, run⟩ := ApiDocument.exists_run h
  intro e he horigin
  by_cases hreachable : api.Reachable e.2.key
  · exact Or.inl hreachable
  -- the lifted unions that cannot be reached hold each other
  let unreached : Set String := {key | ∃ e ∈ api.models, e.2.key = key ∧ e.2.origin = .composed ∧
    ¬ api.Reachable key}
  have hfinite : unreached.Finite := by
    refine (List.finite_toSet (api.models.map (·.2.key))).subset ?_
    rintro _ ⟨e, he, rfl, -⟩
    exact List.mem_map.2 ⟨e, he, rfl⟩
  have hbefore : ∀ key ∈ unreached, ∃ other ∈ unreached, other ≠ key ∧ api.Refers other key := by
    rintro _ ⟨e, he, rfl, horigin, hnot⟩
    rcases run.referenced_of_composed he horigin with hroot | ⟨e', he', hne, hrefers⟩
    · exact absurd ⟨_, Or.inl hroot, .refl⟩ hnot
    have hstep : api.Refers e'.2.key e.2.key := ⟨e', he', rfl, hrefers⟩
    have hnot' : ¬ api.Reachable e'.2.key := by
      rintro ⟨root, hroot, hpath⟩
      exact hnot ⟨root, hroot, hpath.tail hstep⟩
    refine ⟨e'.2.key, ⟨e', he', rfl, ?_, hnot'⟩, hne, hstep⟩
    exact Decidable.byContradiction fun horigin' =>
      hnot' ⟨_, Or.inr ⟨e', he', rfl, horigin'⟩, .refl⟩
  obtain ⟨_, ⟨start, hstart, rfl, hcomposed, -⟩, hcycle, hpath⟩ :=
    exists_cycle_of_finite hfinite hbefore ⟨e, he, rfl, horigin, hreachable⟩
  exact Or.inr ⟨start, hstart, hcomposed, hcycle, hpath⟩

/-- Two lifted unions that refer to each other, and nothing else. -/
def ApiDocument.twinUnions : ApiDocument :=
  { title := "Unions"
    version := "1"
    models :=
      [("OneOfCatOrDog", { schema := ⟨.union .oneOf [⟨.reference "OneOfDogOrCat", []⟩], []⟩
                           origin := .composed }),
        ("OneOfDogOrCat", { schema := ⟨.union .oneOf [⟨.reference "OneOfCatOrDog", []⟩], []⟩
                            origin := .composed })] }

lemma ApiDocument.exists_result_twinUnions : ∃ api statistics,
    twinUnions.resolve {} = .ok (api, statistics) ∧
      (api.models.map (·.2.origin), api.tags.length) = ([.composed, .composed], 0) :=
  exists_result_of (by decide +kernel)

theorem twinUnions_reached : ∃ api statistics,
    ApiDocument.twinUnions.resolve {} = .ok (api, statistics) ∧ api.models.length = 2 ∧
      ∀ e ∈ api.models, e.2.origin = .composed → api.Reachable e.2.key ∨
        ∃ start ∈ api.models, start.2.origin = .composed ∧ api.OnCycle start.2.key ∧
          ReflTransGen api.Refers start.2.key e.2.key := by
  obtain ⟨api, statistics, h, hview⟩ := ApiDocument.exists_result_twinUnions
  have hlength := congrArg (·.1.length) hview
  exact ⟨api, statistics, h, by simpa using hlength, reached_of_mem h⟩

/-- Both are left, though nothing leads to either. -/
theorem not_reachable_twinUnions : ∃ api statistics,
    ApiDocument.twinUnions.resolve {} = .ok (api, statistics) ∧
      ∃ e ∈ api.models, e.2.origin = .composed ∧ ¬ api.Reachable e.2.key := by
  obtain ⟨api, statistics, h, hview⟩ := ApiDocument.exists_result_twinUnions
  obtain ⟨hmodels, htags⟩ := Prod.mk.inj hview
  have hcomposed : ∀ e ∈ api.models, e.2.origin = .composed := fun e he => by
    have hmem := List.mem_map_of_mem (f := fun e : String × ModelDescriptor => e.2.origin) he
    rw [hmodels] at hmem
    simpa using hmem
  -- without operations, and with lifted unions only, references start nowhere
  have hroot : ∀ root, ¬ api.IsRoot root := by
    rintro root (⟨o, ho, -⟩ | ⟨e, he, -, horigin⟩)
    · rw [TypedApi.operations, List.eq_nil_of_length_eq_zero htags] at ho
      cases ho
    · exact horigin (hcomposed e he)
  have hne : api.models ≠ [] := fun hnil => by
    rw [hnil] at hmodels
    cases hmodels
  obtain ⟨e, he⟩ := List.exists_mem_of_ne_nil _ hne
  refine ⟨api, statistics, h, e, he, hcomposed e he, ?_⟩
  rintro ⟨root, hstart, -⟩
  exact hroot root hstart

end ApiTypes
