import ApiTypes.Resolution.SchemaType
import Mathlib.Data.List.Forall2
import Mathlib.Data.List.Induction
import Mathlib.Tactic.Lemma

/-!
# Leaving out what was seen before

Types that count as the same are kept once, where they are seen first.  What is kept is compared
with what was kept before, not with all that stands before it; this makes no difference when
counting as the same is transitive.

* `firstSeen_concat` — one more thing at the end of a list.
* `firstSeen_sublist`, `exists_mem_firstSeen`, `firstSeen_pairwise` — what is kept stands in order,
  stands for all that is left out, and has no two things that count as the same.
* `firstSeen_rel`, `firstSeen_map` — lists of things that correspond are treated alike.
* `existsUnique_firstSeen` — one place is left for everything.
* `withoutRepeats`, `firstSeen_eq_withoutRepeats` — **it is what counts as the same as nothing
  before it.**
* `TypeDescriptor.sameType_equivalence` — types count as the same in such a way.
-/

namespace ApiTypes

variable {α β : Type} {same : α → α → Bool} {xs : List α} {x : α}

/-- **One more thing** is kept unless something that is kept already counts as the same. -/
lemma firstSeen_concat (same : α → α → Bool) (xs : List α) (x : α) :
    firstSeen same (xs ++ [x]) =
      if (firstSeen same xs).any (same · x) then firstSeen same xs
      else firstSeen same xs ++ [x] := by
  rw [firstSeen, List.foldl_append]
  rfl

/-- What is kept of a list stands in the order of the list. -/
lemma firstSeen_sublist (same : α → α → Bool) (xs : List α) : (firstSeen same xs).Sublist xs := by
  induction xs using List.reverseRecOn with
  | nil => exact .slnil
  | append_singleton xs x ih =>
    rw [firstSeen_concat]
    split
    · exact ih.trans (List.sublist_append_left xs [x])
    · exact ih.append (List.Sublist.refl [x])

/-- What is kept of a list comes from the list. -/
lemma firstSeen_subset (same : α → α → Bool) (xs : List α) : firstSeen same xs ⊆ xs :=
  (firstSeen_sublist same xs).subset

/-- What is kept stays when there is more. -/
lemma firstSeen_subset_concat (same : α → α → Bool) (xs : List α) (x : α) :
    firstSeen same xs ⊆ firstSeen same (xs ++ [x]) := by
  rw [firstSeen_concat]
  split
  · exact List.Subset.refl _
  · exact List.subset_append_left _ _

/-- Everything in a list counts as the same as something that is kept of it. -/
lemma exists_mem_firstSeen (hrefl : ∀ x, same x x = true) (hx : x ∈ xs) :
    ∃ y ∈ firstSeen same xs, same y x = true := by
  induction xs using List.reverseRecOn with
  | nil => cases hx
  | append_singleton xs last ih =>
    rcases List.mem_append.1 hx with hx | hx
    · obtain ⟨y, hy, hsame⟩ := ih hx
      exact ⟨y, firstSeen_subset_concat same xs last hy, hsame⟩
    · obtain rfl := List.mem_singleton.1 hx
      rw [firstSeen_concat]
      split
      · rename_i hany
        exact List.any_eq_true.1 hany
      · exact ⟨x, List.mem_append_right _ (List.mem_singleton_self x), hrefl x⟩

/-- No two things that are kept of a list count as the same. -/
lemma firstSeen_pairwise (same : α → α → Bool) (xs : List α) :
    (firstSeen same xs).Pairwise fun x y => same x y = false := by
  induction xs using List.reverseRecOn with
  | nil => exact .nil
  | append_singleton xs x ih =>
    rw [firstSeen_concat]
    split
    · exact ih
    · rename_i hnew
      have hnew : ∀ y ∈ firstSeen same xs, same y x = false := by simpa using hnew
      refine List.pairwise_append.2 ⟨ih, List.pairwise_singleton _ _, fun y hy z hz => ?_⟩
      exact List.mem_singleton.1 hz ▸ hnew y hy

/-- What comes first is kept first. -/
lemma head?_firstSeen (same : α → α → Bool) (xs : List α) :
    (firstSeen same xs).head? = xs.head? := by
  induction xs using List.reverseRecOn with
  | nil => rfl
  | append_singleton xs x ih =>
    rw [firstSeen_concat, List.head?_append, ← ih]
    split
    · rename_i hany
      obtain ⟨y, hy, -⟩ := List.any_eq_true.1 hany
      obtain ⟨z, zs, hkept⟩ := List.exists_cons_of_ne_nil (List.ne_nil_of_mem hy)
      rw [hkept]
      rfl
    · exact List.head?_append

/-! ## Lists that correspond -/

/-- **Things that correspond are kept or left out together**, when they count as the same alike. -/
lemma firstSeen_rel {R : α → β → Prop} {same' : β → β → Bool}
    (hsame : ∀ {x x' y y'}, R x y → R x' y' → same x x' = same' y y') {xs : List α} {ys : List β}
    (h : List.Forall₂ R xs ys) :
    List.Forall₂ R (firstSeen same xs) (firstSeen same' ys) := by
  have hany : ∀ {kept kept' x y}, List.Forall₂ R kept kept' → R x y →
      kept.any (same · x) = kept'.any (same' · y) := by
    intro kept kept' x y hkept hxy
    induction hkept with
    | nil => rfl
    | cons hfirst _ ih => rw [List.any_cons, List.any_cons, hsame hfirst hxy, ih]
  refine List.rel_foldl (fun kept kept' hkept x y hxy => ?_) .nil h
  rw [hany hkept hxy]
  split
  · exact hkept
  · exact List.rel_append hkept (.cons hxy .nil)

/-- So it makes no difference whether things are kept before or after each is changed. -/
lemma firstSeen_map (same : β → β → Bool) (f : α → β) (xs : List α) :
    firstSeen same (xs.map f) = (firstSeen (fun x y => same (f x) (f y)) xs).map f := by
  have hrel : List.Forall₂ (fun x y => f x = y) xs (xs.map f) :=
    List.forall₂_map_right_iff.2 (List.forall₂_same.2 fun _ _ => rfl)
  have hkept : List.Forall₂ (fun x y => f x = y) (firstSeen (fun x y => same (f x) (f y)) xs)
      (firstSeen same (xs.map f)) :=
    firstSeen_rel (fun hx hy => by rw [← hx, ← hy]) hrel
  rw [← List.forall₂_map_left_iff (R := fun y z => y = z), List.forall₂_eq_eq_eq] at hkept
  exact hkept.symm

/-! ## Counting as the same is an equivalence -/

/-- **One place is left for everything in a list**: that of what it counts as the same as. -/
lemma existsUnique_firstSeen (hsame : Equivalence fun x y => same x y = true) (hx : x ∈ xs) :
    ∃! place : Nat, ∃ y, (firstSeen same xs)[place]? = some y ∧ same y x = true := by
  obtain ⟨y, hy, hyx⟩ := exists_mem_firstSeen hsame.refl hx
  obtain ⟨place, hplace, rfl⟩ := List.mem_iff_getElem.1 hy
  refine ⟨place, ⟨_, List.getElem?_eq_getElem hplace, hyx⟩, ?_⟩
  rintro other ⟨z, hz, hzx⟩
  obtain ⟨hother, rfl⟩ := List.getElem?_eq_some_iff.1 hz
  -- what is kept at two places does not count as the same, but both count as the same as `x`
  have hdiffer := List.pairwise_iff_getElem.1 (firstSeen_pairwise same xs)
  rcases Nat.lt_trichotomy place other with hlt | rfl | hlt
  · have hboth := hsame.trans hyx (hsame.symm hzx)
    rw [hdiffer place other hplace hother hlt] at hboth
    cases hboth
  · rfl
  · have hboth := hsame.trans hzx (hsame.symm hyx)
    rw [hdiffer other place hother hplace hlt] at hboth
    cases hboth

/-- Those of a list that count as the same as none before them. -/
def withoutRepeats (same : α → α → Bool) (xs : List α) : List α :=
  (xs.zipIdx.filter fun e => (xs.take e.2).all fun y => !same y e.1).map Prod.fst

lemma withoutRepeats_concat (same : α → α → Bool) (xs : List α) (x : α) :
    withoutRepeats same (xs ++ [x]) =
      withoutRepeats same xs ++ if xs.any (same · x) then [] else [x] := by
  have hbefore : ∀ e ∈ xs.zipIdx, ((xs ++ [x]).take e.2).all (fun y => !same y e.1) =
      (xs.take e.2).all fun y => !same y e.1 := by
    intro e he
    have hplace : e.2 ≤ xs.length := Nat.le_of_lt (List.snd_lt_of_mem_zipIdx he)
    rw [List.take_append_of_le_length hplace]
  rw [withoutRepeats, List.zipIdx_append, List.filter_append, List.filter_congr hbefore,
    List.map_append, withoutRepeats, Nat.zero_add]
  congr 1
  -- all of the list stands before the last element
  have hlast : ((xs ++ [x]).take xs.length).all (fun y => !same y x) = !xs.any (same · x) := by
    rw [List.take_left, List.not_any_eq_all_not]
  rw [List.zipIdx_singleton, List.filter_cons, List.filter_nil, hlast]
  cases xs.any (same · x) <;> rfl

/-- **What is kept counts as the same as nothing before it**, and all that does so is kept. -/
theorem firstSeen_eq_withoutRepeats (hsame : Equivalence fun x y => same x y = true)
    (xs : List α) : firstSeen same xs = withoutRepeats same xs := by
  induction xs using List.reverseRecOn with
  | nil => rfl
  | append_singleton xs x ih =>
    -- something before counts as the same just when something that was kept does
    have hany : (firstSeen same xs).any (same · x) = xs.any (same · x) := by
      rw [Bool.eq_iff_iff, List.any_eq_true, List.any_eq_true]
      constructor
      · rintro ⟨y, hy, hyx⟩
        exact ⟨y, firstSeen_subset same xs hy, hyx⟩
      · rintro ⟨y, hy, hyx⟩
        obtain ⟨z, hz, hsame'⟩ := exists_mem_firstSeen hsame.refl hy
        exact ⟨z, hz, hsame.trans hsame' hyx⟩
    rw [firstSeen_concat, hany, withoutRepeats_concat, ih]
    split
    · rw [List.append_nil]
    · rfl

namespace TypeDescriptor

lemma sameType_refl (t : TypeDescriptor) : t.sameType t = true :=
  beq_self_eq_true _

/-- Types count as the same when they are compared by the same name. -/
lemma sameType_equivalence : Equivalence fun t u : TypeDescriptor => t.sameType u = true where
  refl := sameType_refl
  symm h := beq_iff_eq.2 (beq_iff_eq.1 h).symm
  trans h h' := beq_iff_eq.2 ((beq_iff_eq.1 h).trans (beq_iff_eq.1 h'))

end TypeDescriptor

end ApiTypes
