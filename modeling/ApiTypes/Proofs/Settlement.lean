import ApiTypes.Naming.Settlement
import ApiTypes.Proofs.Registry
import Mathlib.Logic.Relation

/-!
# Settling moves by moves

Settling is made of few moves, and what every move keeps is kept by the whole.

* `Settlement.Move` — a class name changes hands, a model is marked, or one is left out.
* `Move.consistent`, `Move.legalNames`, `Move.view_sublist`, `Move.size_add_dropped` — what a move
  keeps; `Moves.consistent`, … — what a run of moves keeps; `Moves.view_eq` — a model that is still
  there looks the same.
* `ActsOnKey` — steps that go along a list and touch the model of one key each;
  `ActsOnKey.foldl_turn` — the step of a key finds its model untouched, and its result stays.
* `Omission` — one lifted union is left out that nothing refers to; `dropUnreferenced_omissions` —
  leaving out all of them is a run of such steps.
* `dropUnreferenced_induction` — what holds after leaving out lifted unions.
* `settle_moves` — settling is a run of moves.
-/

namespace ApiTypes

open Relation (ReflTransGen)

/-- A model that counts as the body of an operation. -/
def ModelDescriptor.asBody (m : ModelDescriptor) : ModelDescriptor :=
  { m with
    flags := ModelFlags.set m.flags .bodyModel
    extensions := Extensions.flag m.extensions .bodyModel }

@[simp] lemma ModelDescriptor.className_asBody (m : ModelDescriptor) :
    m.asBody.className = m.className :=
  rfl

/-- A view of models that does not see what settling does to them. -/
structure ModelDescriptor.Stable {α : Type} (v : ModelDescriptor → α) : Prop where
  titled : ∀ className m, v (m.titled className) = v m
  renamedFrom : ∀ previous m, v (m.renamedFrom previous) = v m
  asBody : ∀ m, v m.asBody = v m

lemma ModelDescriptor.stable_origin : Stable (·.origin) where
  titled _ _ := rfl
  renamedFrom _ _ := rfl
  asBody _ := rfl

namespace Settlement

variable {s t : Settlement} {key current desired className : String}

/-! ## Moves -/

/-- The settlement after the model of a key gave its class name back and took another. -/
def retitle (s : Settlement) (key current className : String) : Settlement :=
  { s with registry := s.registry.retitle key current className }

lemma markBody_eq (s : Settlement) (key : String) :
    s.markBody key = { s with registry := s.registry.update key (·.asBody) } :=
  rfl

/-- **One move.**  Class names change only to legal ones that no other model holds, and only a model
that is there is left out. -/
inductive Move : Settlement → Settlement → Prop where
  | retitle {s : Settlement} {key current className : String}
      (hcurrent : s.registry.className? key = some current)
      (hfree : className ∉ s.registry.usedNames.filter (· ≠ current))
      (hlegal : Name.Legal className) : Move s (s.retitle key current className)
  | noteRename (s : Settlement) (key previous : String) : Move s (s.noteRename key previous)
  | markBody (s : Settlement) (key : String) : Move s (s.markBody key)
  | drop {s : Settlement} {key : String} (hkey : key ∈ s.registry.keys) : Move s (s.drop key)
  | warn (s : Settlement) (warnings : List Warning) : Move s { s with warnings := warnings }

/-- Moves one after another. -/
abbrev Moves : Settlement → Settlement → Prop :=
  ReflTransGen Move

namespace Move

lemma consistent (h : Move s t) (hs : s.registry.Consistent) : t.registry.Consistent := by
  cases h with
  | retitle hcurrent hfree hlegal => exact hs.retitle hcurrent hfree
  | noteRename key previous => exact hs.update (fun _ => rfl) (fun _ => rfl)
  | markBody key => exact hs.update (f := ModelDescriptor.asBody) (fun _ => rfl) (fun _ => rfl)
  | drop hkey => exact hs.remove _
  | warn warnings => exact hs

lemma legalNames (h : Move s t) (hs : s.registry.LegalNames) : t.registry.LegalNames := by
  cases h with
  | retitle hcurrent hfree hlegal => exact hs.retitle hlegal
  | noteRename key previous => exact hs.update fun _ => rfl
  | markBody key => exact hs.update fun _ => rfl
  | drop hkey => exact hs.remove _
  | warn warnings => exact hs

/-- What a stable view sees is there as before, but for the models that were left out. -/
lemma view_sublist {α : Type} {v : ModelDescriptor → α} (hv : ModelDescriptor.Stable v)
    (h : Move s t) : (t.registry.view v).Sublist (s.registry.view v) := by
  cases h with
  | retitle hcurrent hfree hlegal =>
    rw [Settlement.retitle, Registry.view_retitle (hv.titled _)]
  | noteRename key previous =>
    rw [Settlement.noteRename, Registry.view_update (hv.renamedFrom _)]
  | markBody key =>
    rw [markBody_eq, Registry.view_update hv.asBody]
  | drop hkey => exact Registry.view_remove_sublist v
  | warn warnings => exact .refl _

/-- Every model is still there or was counted when it was left out. -/
lemma size_add_dropped (h : Move s t) (hs : s.registry.Consistent) :
    t.registry.size + t.dropped = s.registry.size + s.dropped := by
  cases h with
  | retitle hcurrent hfree hlegal => exact congrArg (· + s.dropped) (Registry.size_retitle ..)
  | noteRename key previous => exact congrArg (· + s.dropped) (Registry.size_update ..)
  | markBody key => exact congrArg (· + s.dropped) (Registry.size_update ..)
  | drop hkey =>
    have hsize := hs.size_remove hkey
    show (s.registry.remove _).1.size + (s.dropped + 1) = _
    omega
  | warn warnings => rfl

end Move

namespace Moves

lemma consistent (h : Moves s t) (hs : s.registry.Consistent) : t.registry.Consistent := by
  induction h with
  | refl => exact hs
  | tail _ hmove ih => exact hmove.consistent ih

lemma legalNames (h : Moves s t) (hs : s.registry.LegalNames) : t.registry.LegalNames := by
  induction h with
  | refl => exact hs
  | tail _ hmove ih => exact hmove.legalNames ih

lemma view_sublist {α : Type} {v : ModelDescriptor → α} (hv : ModelDescriptor.Stable v)
    (h : Moves s t) : (t.registry.view v).Sublist (s.registry.view v) := by
  induction h with
  | refl => exact .refl _
  | tail _ hmove ih => exact (hmove.view_sublist hv).trans ih

/-- A model that is still there looks the same to every stable view. -/
lemma view_eq {α : Type} {v : ModelDescriptor → α} (hv : ModelDescriptor.Stable v)
    (h : Moves s t) (hs : s.registry.Consistent) {m m' : ModelDescriptor}
    (hm : s.registry.get? key = some m) (hm' : t.registry.get? key = some m') : v m' = v m := by
  have hmem := (h.view_sublist hv).subset (Registry.mem_view v (Members.mem_of_get? hm'))
  obtain ⟨⟨key', m''⟩, he, heq⟩ := List.mem_map.1 hmem
  obtain ⟨rfl, hview⟩ := Prod.mk.inj heq
  rw [Option.some.inj (hm.symm.trans (hs.get?_eq_some.2 he)), ← hview]

/-- No model comes back. -/
lemma keys_subset (h : Moves s t) : t.registry.keys ⊆ s.registry.keys := by
  rw [← Registry.names_view (·.origin), ← Registry.names_view (·.origin)]
  exact ((h.view_sublist ModelDescriptor.stable_origin).map _).subset

/-- A model that is there was there before. -/
lemma exists_get? (h : Moves s t) {m' : ModelDescriptor} (hm' : t.registry.get? key = some m') :
    ∃ m, s.registry.get? key = some m :=
  Registry.mem_keys_iff.1 (h.keys_subset (Registry.mem_keys_iff.2 ⟨m', hm'⟩))

lemma size_add_dropped (h : Moves s t) (hs : s.registry.Consistent) :
    t.registry.size + t.dropped = s.registry.size + s.dropped := by
  induction h with
  | refl => rfl
  | tail hmoves hmove ih => exact (hmove.size_add_dropped (Moves.consistent hmoves hs)).trans ih

end Moves

/-! ## Steps and their moves -/

/-- What `rename` can do: nothing, or give the model a unique name made from the desired one, which
counts as a change unless it is the name the model had. -/
lemma rename_cases [Spelling] (s : Settlement) (key desired : String) :
    (s.registry.className? key = none ∧ s.rename key desired = s) ∨
    ∃ current, s.registry.className? key = some current ∧
      ((Name.className desired = current ∧ s.rename key desired = s) ∨ ∃ new,
        new = Name.unique (Name.className desired) (s.registry.usedNames.filter (· ≠ current)) ∧
        s.rename key desired =
          if new = current then s.retitle key current new
          else (s.retitle key current new).noteRename key current) := by
  rw [rename]
  rcases s.registry.rename_cases key desired with ⟨hnone, heq⟩ | ⟨current, hcurrent, hcases⟩
  · exact Or.inl ⟨hnone, by simp only [heq, hnone]⟩
  · refine Or.inr ⟨current, hcurrent, ?_⟩
    rcases hcases with ⟨hsame, heq⟩ | ⟨-, new, hnew, heq⟩
    · exact Or.inl ⟨hsame, by simp only [heq, hcurrent, if_true]⟩
    · refine Or.inr ⟨new, hnew, ?_⟩
      simp only [heq, hcurrent, Option.some.injEq]
      rfl

lemma rename_moves [Spelling] (s : Settlement) (key desired : String) : Moves s
    (s.rename key desired) := by
  obtain ⟨-, heq⟩ | ⟨current, hcurrent, ⟨-, heq⟩ | ⟨new, hnew, heq⟩⟩ := s.rename_cases key desired
  · rw [heq]
  · rw [heq]
  · have hmove : Move s (s.retitle key current new) := by
      rw [hnew]
      exact .retitle hcurrent (Name.unique_not_mem _ _) ((Name.className_legal desired).unique _)
    rw [heq]
    split
    · exact .single hmove
    · exact .tail (.single hmove) (.noteRename ..)

lemma carryOut_moves [Spelling] (hkey : key ∈ s.registry.keys) (ruling : Ruling) :
    Moves s (s.carryOut key ruling) := by
  cases ruling with
  | keep => exact .refl
  | rename desired => exact rename_moves s key desired
  | renameBody desired => exact (rename_moves s key desired).tail (.markBody ..)
  | drop => exact .tail (.single (.drop hkey)) (.warn ..)

/-- What `dropMarker` can do: nothing, or give the model the class name without the marker, which
no other model holds. -/
lemma dropMarker_cases [Spelling] (s : Settlement) (key : String) :
    s.dropMarker key = s ∨ ∃ current rest, s.registry.className? key = some current ∧
      withoutUnionMarker current = some rest ∧
      ((current = Name.className rest ∧ s.dropMarker key = s.noteRename key current) ∨
        (Name.className rest ∉ s.registry.usedNames ∧ s.dropMarker key =
          (s.retitle key current (Name.className rest)).noteRename key current)) := by
  rw [dropMarker]
  cases hcurrent : s.registry.className? key with
  | none => exact Or.inl rfl
  | some current =>
    dsimp only
    cases hrest : withoutUnionMarker current with
    | none => exact Or.inl rfl
    | some rest =>
      dsimp only
      rcases s.registry.renameIfFree_cases key (Name.className rest) with
        ⟨hnone, -⟩ | ⟨current', hcurrent', hcases⟩
      · rw [hcurrent] at hnone
        cases hnone
      obtain rfl := Option.some.inj (hcurrent.symm.trans hcurrent')
      rcases hcases with ⟨hsame, heq⟩ | ⟨-, -, heq⟩ | ⟨-, hfree, heq⟩
      · exact Or.inr ⟨current, rest, rfl, hrest, Or.inl ⟨hsame, by simp only [heq, if_true]⟩⟩
      · exact Or.inl (by simp [heq])
      · refine Or.inr ⟨current, rest, rfl, hrest, Or.inr ⟨hfree, ?_⟩⟩
        simp only [heq, if_true]
        rfl

lemma dropMarker_moves [Spelling] (s : Settlement) (key : String) : Moves s (s.dropMarker key) := by
  obtain heq | ⟨current, rest, hcurrent, -, ⟨-, heq⟩ | ⟨hfree, heq⟩⟩ := s.dropMarker_cases key
  · rw [heq]
  · rw [heq]
    exact .single (.noteRename ..)
  · have hmove : Move s (s.retitle key current (Name.className rest)) :=
      .retitle hcurrent (fun hmem => hfree (List.mem_of_mem_filter hmem))
        (Name.className_legal rest)
    rw [heq]
    exact .tail (.single hmove) (.noteRename ..)

/-! ## Steps along a list -/

/-- How far steps along a list have come when it is the turn of a key. -/
def turn {α : Type} (keyOf : α → String) (f : Settlement → α → Settlement) (xs : List α)
    (s : Settlement) (key : String) : Settlement :=
  (xs.takeWhile fun x => keyOf x ≠ key).foldl f s

/-- Steps that move the model of one key each and leave those of all other keys alone. -/
structure ActsOnKey {α : Type} (key : α → String) (f : Settlement → α → Settlement) : Prop where
  moves : ∀ s a, key a ∈ s.registry.keys → Moves s (f s a)
  frame : ∀ s a k, k ≠ key a → (f s a).registry.get? k = s.registry.get? k

namespace ActsOnKey

variable {α : Type} {keyOf : α → String} {f : Settlement → α → Settlement} {xs : List α}

lemma get?_foldl (hf : ActsOnKey keyOf f) {k : String} (hk : k ∉ xs.map keyOf) :
    (xs.foldl f s).registry.get? k = s.registry.get? k := by
  induction xs generalizing s with
  | nil => rfl
  | cons x xs ih =>
    obtain ⟨hne, hk⟩ := not_or.1 (List.mem_cons.not.1 hk)
    rw [List.foldl_cons, ih hk, hf.frame s x k hne]

/-- **What holds along a list of different keys**: whatever holds at the start, and still holds
after the step of a key whose model is as it was at the start. -/
lemma foldl_induction (hf : ActsOnKey keyOf f) {P : Settlement → Prop}
    (hnd : (xs.map keyOf).Nodup) (hin : ∀ x ∈ xs, keyOf x ∈ s.registry.keys)
    (hstep : ∀ t, ∀ x ∈ xs, ∀ m, P t → s.registry.get? (keyOf x) = some m →
      t.registry.get? (keyOf x) = some m → P (f t x)) (hs : P s) : P (xs.foldl f s) := by
  induction xs generalizing s with
  | nil => exact hs
  | cons x xs ih =>
    obtain ⟨hfresh, hnd⟩ := List.nodup_cons.1 hnd
    have hframe : ∀ y ∈ xs, (f s x).registry.get? (keyOf y) = s.registry.get? (keyOf y) :=
      fun y hy => hf.frame s x _ fun heq => hfresh (heq ▸ List.mem_map_of_mem hy)
    refine ih hnd (fun y hy => ?_) (fun t y hy m hP hm => ?_) ?_
    · rw [Registry.mem_keys_iff, hframe y hy, ← Registry.mem_keys_iff]
      exact hin y (List.mem_cons_of_mem _ hy)
    · rw [hframe y hy] at hm
      exact hstep t y (List.mem_cons_of_mem _ hy) m hP hm
    · obtain ⟨m, hm⟩ := Registry.mem_keys_iff.1 (hin x List.mem_cons_self)
      exact hstep s x List.mem_cons_self m hs hm hm

lemma moves_foldl (hf : ActsOnKey keyOf f) (hnd : (xs.map keyOf).Nodup)
    (hin : ∀ x ∈ xs, keyOf x ∈ s.registry.keys) : Moves s (xs.foldl f s) :=
  hf.foldl_induction (P := Moves s) hnd hin
    (fun t x _ _ hmoves _ hm => hmoves.trans (hf.moves t x (Registry.mem_keys_iff.2 ⟨_, hm⟩))) .refl

/-- **The step of a key finds its model as it was at the start, and its result stays.** -/
lemma foldl_turn (hf : ActsOnKey keyOf f) (hnd : (xs.map keyOf).Nodup)
    (hin : ∀ x ∈ xs, keyOf x ∈ s.registry.keys) {x : α} (hx : x ∈ xs) :
    Moves s (turn keyOf f xs s (keyOf x)) ∧
      (turn keyOf f xs s (keyOf x)).registry.get? (keyOf x) = s.registry.get? (keyOf x) ∧
      (xs.foldl f s).registry.get? (keyOf x) =
        (f (turn keyOf f xs s (keyOf x)) x).registry.get? (keyOf x) := by
  obtain ⟨before, after, rfl⟩ := List.append_of_mem hx
  rw [List.map_append, List.map_cons] at hnd
  obtain ⟨hbefore, hafter, hdisjoint⟩ := List.nodup_append.1 hnd
  obtain ⟨hxafter, -⟩ := List.nodup_cons.1 hafter
  have hxbefore : keyOf x ∉ before.map keyOf := fun hmem =>
    hdisjoint _ hmem _ List.mem_cons_self rfl
  have hne : ∀ y ∈ before, decide (keyOf y ≠ keyOf x) = true := fun y hy => by
    simpa using fun heq => hxbefore (List.mem_map.2 ⟨y, hy, heq⟩)
  have hturn : turn keyOf f (before ++ x :: after) s (keyOf x) = before.foldl f s := by
    rw [turn, List.takeWhile_append_of_pos hne, List.takeWhile_cons_of_neg (by simp),
      List.append_nil]
  rw [hturn]
  refine ⟨hf.moves_foldl hbefore ?_, hf.get?_foldl hxbefore, ?_⟩
  · exact fun y hy => hin y (List.mem_append_left _ hy)
  · rw [List.foldl_append, List.foldl_cons, hf.get?_foldl hxafter]

end ActsOnKey

/-! ### The steps of settling -/

lemma get?_retitle_of_ne {k : String} (hk : k ≠ key) :
    (s.retitle key current className).registry.get? k = s.registry.get? k := by
  rw [retitle, Registry.get?_retitle, if_neg hk]

lemma get?_noteRename_of_ne {k previous : String} (hk : k ≠ key) :
    (s.noteRename key previous).registry.get? k = s.registry.get? k := by
  rw [noteRename, Registry.get?_update, if_neg hk]

lemma get?_rename_of_ne [Spelling] {k : String} (hk : k ≠ key) :
    (s.rename key desired).registry.get? k = s.registry.get? k := by
  obtain ⟨-, heq⟩ | ⟨current, -, ⟨-, heq⟩ | ⟨new, -, heq⟩⟩ := s.rename_cases key desired
  · rw [heq]
  · rw [heq]
  · rw [heq]
    split
    · exact get?_retitle_of_ne hk
    · rw [get?_noteRename_of_ne hk, get?_retitle_of_ne hk]

lemma carryOut_actsOnKey [Spelling] (ruling : String × ModelDescriptor → Ruling) :
    ActsOnKey (·.1) fun s e => s.carryOut e.1 (ruling e) where
  moves _ e hkey := carryOut_moves hkey (ruling e)
  frame s e k hk := by
    cases ruling e with
    | keep => rfl
    | rename desired => exact get?_rename_of_ne hk
    | renameBody desired =>
      rw [carryOut, markBody_eq, Registry.get?_update, if_neg hk, get?_rename_of_ne hk]
    | drop => exact (Registry.get?_remove k).trans (if_neg hk)

lemma dropMarker_actsOnKey [Spelling] : ActsOnKey (·.1) fun s (e : String × ModelDescriptor) =>
    if e.2.origin = .composed then s.dropMarker e.1 else s where
  moves s e _ := by
    split
    · exact dropMarker_moves s e.1
    · exact .refl
  frame s e k hk := by
    split
    · obtain heq | ⟨current, rest, -, -, ⟨-, heq⟩ | ⟨-, heq⟩⟩ := s.dropMarker_cases e.1
      · rw [heq]
      · rw [heq, get?_noteRename_of_ne hk]
      · rw [heq, get?_noteRename_of_ne hk, get?_retitle_of_ne hk]
    · rfl

/-! ## Leaving out lifted unions -/

lemma models_drop : (s.drop key).registry.models = s.registry.models.filter fun e => e.1 ≠ key :=
  Registry.models_remove

/-- A key is referred to by a model of another key or by an operation. -/
lemma mem_referenced {fromOperations : List String} {k : String} :
    k ∈ s.referenced fromOperations ↔
      (∃ e ∈ s.registry.models, e.1 ≠ k ∧ k ∈ e.2.references) ∨ k ∈ fromOperations := by
  simp only [referenced, List.mem_append, List.mem_flatMap, List.mem_filter, decide_eq_true_eq]
  simp only [and_comm, ne_comm]

lemma mem_unreferenced {fromOperations : List String} {k : String} :
    k ∈ s.unreferenced fromOperations ↔
      ∃ m, (k, m) ∈ s.registry.models ∧ m.origin = .composed ∧ k ∉ s.referenced fromOperations := by
  simp [unreferenced, and_assoc]

/-- What is left out refers to nothing any more. -/
lemma referenced_drop_subset (s : Settlement) (key : String) (fromOperations : List String) :
    (s.drop key).referenced fromOperations ⊆ s.referenced fromOperations := by
  intro k hk
  rw [mem_referenced, models_drop] at hk
  rw [mem_referenced]
  exact hk.imp_left fun ⟨e, he, hrefers⟩ => ⟨e, List.mem_of_mem_filter he, hrefers⟩

/-- **One lifted union less**, which no operation and no other model refers to. -/
inductive Omission (fromOperations : List String) : Settlement → Settlement → Prop where
  | drop {s : Settlement} {key : String} {m : ModelDescriptor} (hm : (key, m) ∈ s.registry.models)
      (horigin : m.origin = .composed) (hfree : key ∉ s.referenced fromOperations) :
      Omission fromOperations s (s.drop key)

/-- Lifted unions left out one after another. -/
abbrev Omissions (fromOperations : List String) : Settlement → Settlement → Prop :=
  ReflTransGen (Omission fromOperations)

lemma Omissions.keys_nodup {fromOperations : List String} (h : Omissions fromOperations s t)
    (hs : s.registry.keys.Nodup) : t.registry.keys.Nodup := by
  induction h with
  | refl => exact hs
  | tail _ homission ih =>
    cases homission
    rw [drop, Registry.keys_remove]
    exact ih.filter _

/-- In one round the unions that were found go one by one: each is still there when it goes, and
nothing refers to it that did not before. -/
lemma round_omissions (fromOperations : List String) (hs : s.registry.keys.Nodup) :
    Omissions fromOperations s ((s.unreferenced fromOperations).foldl drop s) := by
  have hround : ∀ (keys : List String) (s : Settlement), keys.Nodup →
      (∀ k ∈ keys, k ∈ s.unreferenced fromOperations) →
      Omissions fromOperations s (keys.foldl drop s) := by
    intro keys
    induction keys with
    | nil => exact fun s _ _ => .refl
    | cons k keys ih =>
      intro s hnd hfound
      obtain ⟨hfresh, hnd⟩ := List.nodup_cons.1 hnd
      obtain ⟨hk, hfound⟩ := List.forall_mem_cons.1 hfound
      obtain ⟨m, hm, horigin, hfree⟩ := mem_unreferenced.1 hk
      refine .head (.drop hm horigin hfree) (ih (s.drop k) hnd fun k' hk' => ?_)
      obtain ⟨m', hm', horigin', hfree'⟩ := mem_unreferenced.1 (hfound k' hk')
      have hne : k' ≠ k := fun heq => hfresh (heq ▸ hk')
      refine mem_unreferenced.2 ⟨m', ?_, horigin', fun hk => ?_⟩
      · rw [models_drop]
        exact List.mem_filter.2 ⟨hm', by simpa using hne⟩
      · exact hfree' (referenced_drop_subset s k fromOperations hk)
  exact hround _ s (hs.sublist (List.filter_sublist.map _)) fun _ hk => hk

lemma dropUnreferenced_omissions (fromOperations : List String) (hs : s.registry.keys.Nodup) :
    Omissions fromOperations s (s.dropUnreferenced fromOperations) := by
  fun_induction dropUnreferenced s fromOperations with
  | case1 s hnone => exact .refl
  | case2 s key keys hsome hsmaller ih =>
    have hround := hsome ▸ round_omissions fromOperations hs
    exact hround.trans (ih (hround.keys_nodup hs))

/-- **What holds after lifted unions were left out**: whatever holds before, and still holds when
one model of that origin is left out. -/
theorem dropUnreferenced_induction {P : Settlement → Prop} {fromOperations : List String}
    (hdrop : ∀ (t : Settlement) (key : String) (m : ModelDescriptor), t.registry.Consistent → P t →
      t.registry.get? key = some m → m.origin = .composed → P (t.drop key))
    (hs : s.registry.Consistent) (hP : P s) : P (s.dropUnreferenced fromOperations) := by
  suffices hall : ∀ t, Omissions fromOperations s t → t.registry.Consistent ∧ P t from
    (hall _ (dropUnreferenced_omissions fromOperations hs.keys_nodup)).2
  intro t ht
  induction ht with
  | refl => exact ⟨hs, hP⟩
  | tail _ homission ih =>
    obtain ⟨ht, hP⟩ := ih
    obtain ⟨hm, horigin, -⟩ := homission
    exact ⟨ht.remove _, hdrop _ _ _ ht hP (ht.get?_eq_some.2 hm) horigin⟩

lemma dropUnreferenced_moves (hs : s.registry.Consistent) (fromOperations : List String) :
    Moves s (s.dropUnreferenced fromOperations) :=
  dropUnreferenced_induction (P := Moves s)
    (fun _ _ _ _ hmoves hm _ => hmoves.tail (.drop (Registry.mem_keys_iff.2 ⟨_, hm⟩))) hs .refl

/-- A model that is left is as it was. -/
lemma get?_dropUnreferenced (hs : s.registry.Consistent) {fromOperations : List String}
    {k : String} {m : ModelDescriptor}
    (hm : (s.dropUnreferenced fromOperations).registry.get? k = some m) :
    s.registry.get? k = some m := by
  refine dropUnreferenced_induction
    (P := fun t => ∀ m, t.registry.get? k = some m → s.registry.get? k = some m)
    ?_ hs (fun _ h => h) m hm
  intro t key m _ hP _ _ m' hm'
  rw [drop, Registry.get?_remove] at hm'
  split at hm'
  · cases hm'
  · exact hP m' hm'

/-! ## The whole -/

lemma mem_keys_of_mem_models {r : Registry} {e : String × ModelDescriptor} (he : e ∈ r.models) :
    e.1 ∈ r.keys :=
  List.mem_map_of_mem he

variable [Spelling]

lemma applySuggestions_moves (hs : s.registry.Consistent) (suggestions : Suggestions) :
    Moves s (s.applySuggestions suggestions) :=
  (carryOut_actsOnKey _).moves_foldl hs.keys_nodup fun _ => mem_keys_of_mem_models

lemma view_dropMarker {α : Type} {v : ModelDescriptor → α} (hv : ModelDescriptor.Stable v)
    (s : Settlement) (key : String) : (s.dropMarker key).registry.view v = s.registry.view v := by
  obtain heq | ⟨current, rest, -, -, ⟨-, heq⟩ | ⟨-, heq⟩⟩ := s.dropMarker_cases key
  · rw [heq]
  · rw [heq, noteRename, Registry.view_update (hv.renamedFrom _)]
  · rw [heq, noteRename, Registry.view_update (hv.renamedFrom _), retitle,
      Registry.view_retitle (hv.titled _)]

/-- While lifted unions lose their markers all models stay. -/
lemma view_dropMarkers {α : Type} {v : ModelDescriptor → α} (hv : ModelDescriptor.Stable v)
    (s : Settlement) : s.dropMarkers.registry.view v = s.registry.view v := by
  suffices hfold : ∀ (es : List (String × ModelDescriptor)) (t : Settlement),
      (es.foldl (fun s e => if e.2.origin = .composed then s.dropMarker e.1 else s)
        t).registry.view v = t.registry.view v from hfold _ s
  intro es
  induction es with
  | nil => exact fun _ => rfl
  | cons e es ih =>
    intro t
    rw [List.foldl_cons, ih]
    split
    · exact view_dropMarker hv t e.1
    · rfl

lemma dropMarkers_moves (hs : s.registry.Consistent) : Moves s s.dropMarkers :=
  dropMarker_actsOnKey.moves_foldl hs.keys_nodup fun _ => mem_keys_of_mem_models

end Settlement

open Settlement in
/-- **Settling is a run of moves.** -/
theorem Registry.settle_moves [Spelling] {r : Registry} (hr : r.Consistent)
    (suggestions : Suggestions) (operations : List OperationDescriptor) :
    Moves ⟨r, 0, 0, []⟩ (r.settle suggestions operations) := by
  have hnamed := applySuggestions_moves (s := ⟨r, 0, 0, []⟩) hr suggestions
  have hnamed' := hnamed.consistent hr
  have hleft := dropUnreferenced_moves hnamed' (operations.flatMap (·.references))
  exact (hnamed.trans hleft).trans (dropMarkers_moves (hleft.consistent hnamed'))

end ApiTypes
