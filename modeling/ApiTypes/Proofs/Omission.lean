import ApiTypes.Proofs.Settlement
import Mathlib.Logic.Function.Iterate
import Mathlib.Order.Bounds.Defs

/-!
# Which lifted unions are left out

Lifted unions that nothing refers to are left out round by round, and each round may free more of
them.  What is missing in the end does not depend on the rounds: it is the least set of keys that
has each lifted union to which only the union itself and members of the set refer.  A lifted union
that refers to itself counts as unreferenced; two that refer to each other do not.

* `Registry.Closed` — the sets of which what is missing is the least.
* `Omissions.mem_models_iff` — what lifted unions that were left out leave behind.
* `Omissions.isLeast_missing` — **however they were left out**, one after another.
* `exists_rounds`, `unreferenced_dropUnreferenced` — the rounds come to an end, and the end is one.
-/

namespace ApiTypes

/-- A set of keys that has each lifted union to which no operation and only the union itself and
members of the set refer.  Models that are gone refer to nothing. -/
def Registry.Closed (r : Registry) (gone : Set String) (fromOperations : List String)
    (keys : Set String) : Prop :=
  ∀ key m, r.get? key = some m → m.origin = .composed → key ∉ fromOperations →
    (∀ other m', r.get? other = some m' → other ∉ gone → key ∈ m'.references →
      other = key ∨ other ∈ keys) →
    key ∈ keys

namespace Settlement

variable {s t : Settlement} {fromOperations : List String} {key : String} {keys : Set String}

/-- The keys of the models that were left out from one settlement to another. -/
def missing (s t : Settlement) : Set String :=
  {key | key ∈ s.registry.keys ∧ key ∉ t.registry.keys}

/-- One round: all lifted unions are left out that nothing refers to. -/
def round (fromOperations : List String) (s : Settlement) : Settlement :=
  (s.unreferenced fromOperations).foldl drop s

/-! ## One after another -/

lemma eq_of_not_mem_keys_drop {dropped : String} (hkey : key ∈ s.registry.keys)
    (hgone : key ∉ (s.drop dropped).registry.keys) : key = dropped := by
  rw [drop, Registry.keys_remove, List.mem_filter] at hgone
  simpa [hkey] using hgone

namespace Omissions

/-- The models that are left are as they were. -/
lemma mem_models_iff (h : Omissions fromOperations s t) (e : String × ModelDescriptor) :
    e ∈ t.registry.models ↔ e ∈ s.registry.models ∧ e.1 ∈ t.registry.keys := by
  induction h with
  | refl => exact ⟨fun he => ⟨he, mem_keys_of_mem_models he⟩, And.left⟩
  | tail _ homission ih =>
    cases homission
    rw [models_drop, List.mem_filter, ih, drop, Registry.keys_remove, List.mem_filter, and_assoc]

/-- What was left out is a lifted union, and nothing that is left refers to it. -/
lemma of_missing (h : Omissions fromOperations s t) (hkey : key ∈ s.missing t) :
    (∃ m, (key, m) ∈ s.registry.models ∧ m.origin = .composed) ∧
      key ∉ t.referenced fromOperations := by
  induction h with
  | refl => exact absurd hkey.1 hkey.2
  | @tail t u h homission ih =>
    obtain ⟨hm, horigin, hfree⟩ := homission
    rename_i dropped m
    by_cases hleft : key ∈ t.registry.keys
    · obtain rfl := eq_of_not_mem_keys_drop hleft hkey.2
      exact ⟨⟨m, ((Omissions.mem_models_iff h _).1 hm).1, horigin⟩,
        fun hrefers => hfree (referenced_drop_subset t key fromOperations hrefers)⟩
    · obtain ⟨hsource, hfree⟩ := ih ⟨hkey.1, hleft⟩
      exact ⟨hsource, fun hrefers => hfree (referenced_drop_subset t _ fromOperations hrefers)⟩

lemma not_mem_references_of_missing (h : Omissions fromOperations s t) (hkey : key ∈ s.missing t)
    {e : String × ModelDescriptor} (he : e ∈ t.registry.models) : key ∉ e.2.references := by
  intro hrefers
  have hne : e.1 ≠ key := by
    rintro rfl
    exact hkey.2 (mem_keys_of_mem_models he)
  exact (h.of_missing hkey).2 (mem_referenced.2 (Or.inl ⟨e, he, hne, hrefers⟩))

/-- Every closed set has all that was left out. -/
lemma missing_subset (h : Omissions fromOperations s t) (hs : s.registry.keys.Nodup)
    (hclosed : s.registry.Closed ∅ fromOperations keys) : s.missing t ⊆ keys := by
  induction h with
  | refl => exact fun _ hkey => absurd hkey.1 hkey.2
  | @tail t u h homission ih =>
    obtain ⟨hm, horigin, hfree⟩ := homission
    rename_i dropped m
    have hdropped : dropped ∈ keys := by
      have hsource := ((Omissions.mem_models_iff h _).1 hm).1
      refine hclosed dropped m (Members.get?_of_mem hs hsource) horigin
        (fun hoperation => hfree (mem_referenced.2 (Or.inr hoperation))) ?_
      intro other m' hother _ hrefers
      by_cases hleft : other ∈ t.registry.keys
      · -- a model that is still there may refer to the union only when it is the union
        have hmem := (Omissions.mem_models_iff h _).2 ⟨Members.mem_of_get? hother, hleft⟩
        refine Or.inl (Decidable.byContradiction fun hne => hfree ?_)
        exact mem_referenced.2 (Or.inl ⟨_, hmem, hne, hrefers⟩)
      · exact Or.inr (ih ⟨Members.mem_names_of_mem (Members.mem_of_get? hother), hleft⟩)
    intro key hkey
    by_cases hleft : key ∈ t.registry.keys
    · exact eq_of_not_mem_keys_drop hleft hkey.2 ▸ hdropped
    · exact ih ⟨hkey.1, hleft⟩

/-- When nothing more can be left out, what was left out is closed. -/
lemma closed_missing (h : Omissions fromOperations s t) (hs : s.registry.keys.Nodup)
    (hend : t.unreferenced fromOperations = []) :
    s.registry.Closed ∅ fromOperations (s.missing t) := by
  intro key m hm horigin hoperations hrefers
  have hmem := Members.mem_of_get? hm
  refine ⟨mem_keys_of_mem_models hmem, fun hleft => ?_⟩
  have hstays : (key, m) ∈ t.registry.models := (h.mem_models_iff _).2 ⟨hmem, hleft⟩
  have hfree : key ∉ t.referenced fromOperations := by
    rw [mem_referenced]
    rintro (⟨⟨other, m'⟩, he, hne, href⟩ | hoperation)
    · obtain ⟨hsource, hother⟩ := (h.mem_models_iff _).1 he
      obtain heq | hmissing := hrefers other m' (Members.get?_of_mem hs hsource) id href
      · exact hne heq
      · exact hmissing.2 hother
    · exact hoperations hoperation
  have hfound : key ∈ t.unreferenced fromOperations :=
    mem_unreferenced.2 ⟨m, hstays, horigin, hfree⟩
  rw [hend] at hfound
  cases hfound

/-- **What is missing when nothing more can be left out** is the least closed set. -/
theorem isLeast_missing (h : Omissions fromOperations s t) (hs : s.registry.keys.Nodup)
    (hend : t.unreferenced fromOperations = []) :
    IsLeast {keys | s.registry.Closed ∅ fromOperations keys} (s.missing t) :=
  ⟨h.closed_missing hs hend, fun _ hclosed => h.missing_subset hs hclosed⟩

end Omissions

/-! ## Round by round -/

lemma unreferenced_dropUnreferenced (s : Settlement) (fromOperations : List String) :
    (s.dropUnreferenced fromOperations).unreferenced fromOperations = [] := by
  fun_induction dropUnreferenced s fromOperations with
  | case1 s hnone => exact hnone
  | case2 s key keys hsome hsmaller ih => exact ih

/-- There are no more rounds than models. -/
lemma exists_rounds (s : Settlement) (fromOperations : List String) : ∃ n ≤ s.registry.size,
    s.dropUnreferenced fromOperations = (round fromOperations)^[n] s := by
  fun_induction dropUnreferenced s fromOperations with
  | case1 s hnone => exact ⟨0, Nat.zero_le _, rfl⟩
  | case2 s key keys hsome hsmaller ih =>
    obtain ⟨n, hn, heq⟩ := ih
    refine ⟨n + 1, Nat.lt_of_le_of_lt hn hsmaller, ?_⟩
    rw [Function.iterate_succ_apply, round, hsome]
    exact heq

end Settlement

end ApiTypes
