import ApiTypes.Proofs.Leaves

/-!
# Relabelling again

Models are renamed more than once before a run ends, and types may be relabelled after each time.
That is safe because a relabelled type keeps no trace of the look-up it was relabelled with, as long
as its leaf led somewhere.  Relabelling replaces the leaf, and gives the containers around it the
names that follow from the new one.  So whatever is to be said of relabelling twice is said of leaves
first, where it can be seen at a glance, and holds of all types then.

* `TypeDescriptor.withLeaf` — the type with another leaf; `withLeaf_withLeaf` — only the last one
  matters.
* `relabel_eq_withLeaf` — **relabelling a type is relabelling its leaf**, and so is relabelling it
  twice (`relabel_relabel_eq_withLeaf`).
* `relabel_leaf` — what becomes of a leaf.
* `relabel_lastLookup` — **only the last look-up matters**, with all else that relabelling keeps.
-/

namespace ApiTypes.TypeDescriptor

variable {classNames classNames' : String → Option String} {t a b : TypeDescriptor}

/-! ## Another leaf -/

/-- **The type with another leaf.**  The containers around it have the names that follow from it. -/
def withLeaf : TypeDescriptor → (leaf : TypeDescriptor) → TypeDescriptor
  | ⟨_, isContainer, isMap, isPrimitive, isDisplayable, format, reference, some inner,
      synthesized⟩, leaf =>
    let inner := inner.withLeaf leaf
    ⟨if isMap then mapName inner.name else listName inner.name, isContainer, isMap, isPrimitive,
      isDisplayable, format, reference, some inner, synthesized⟩
  | ⟨_, _, _, _, _, _, _, none, _⟩, leaf => leaf
termination_by structural t => t

/-- What a type says of its containers, from outside in: whether each counts as a container, and
whether as a map. -/
def containerFlags (t : TypeDescriptor) : List (Bool × Bool) :=
  (t.layers.filter (·.inner.isSome)).map fun layer => (layer.isContainer, layer.isMap)

lemma inner_leaf : ∀ t : TypeDescriptor, t.leaf.inner = none
  | ⟨_, _, _, _, _, _, _, none, _⟩ => rfl
  | ⟨_, _, _, _, _, _, _, some inner, _⟩ => inner_leaf inner

lemma leaf_of_inner_none (h : t.inner = none) : t.leaf = t := by
  obtain ⟨_, _, _, _, _, _, _, _ | _, _⟩ := t
  · rfl
  · cases h

lemma leaf_withLeaf (ha : a.inner = none) : ∀ t : TypeDescriptor, (t.withLeaf a).leaf = a
  | ⟨_, _, _, _, _, _, _, none, _⟩ => leaf_of_inner_none ha
  | ⟨_, _, _, _, _, _, _, some inner, _⟩ => leaf_withLeaf ha inner

lemma withLeaf_of_inner_none (h : t.inner = none) : t.withLeaf a = a := by
  obtain ⟨_, _, _, _, _, _, _, _ | _, _⟩ := t
  · rfl
  · cases h

/-- Of two leaves one after the other the first leaves no trace. -/
lemma withLeaf_withLeaf (ha : a.inner = none) :
    ∀ t : TypeDescriptor, (t.withLeaf a).withLeaf b = t.withLeaf b
  | ⟨_, _, _, _, _, _, _, none, _⟩ => withLeaf_of_inner_none ha
  | ⟨_, _, _, _, _, _, _, some inner, _⟩ => by
      simp only [withLeaf, withLeaf_withLeaf ha inner]

/-- The containers stay as many as they are. -/
lemma length_layers_withLeaf (ha : a.inner = none) :
    ∀ t : TypeDescriptor, (t.withLeaf a).layers.length = t.layers.length
  | ⟨_, _, _, _, _, _, _, none, _⟩ => by
      rw [withLeaf, layers_of_inner_none ha]
      rfl
  | ⟨_, _, _, _, _, _, _, some inner, _⟩ =>
      congrArg (· + 1) (length_layers_withLeaf ha inner)

/-- They stay what they are, too. -/
lemma containerFlags_withLeaf (ha : a.inner = none) :
    ∀ t : TypeDescriptor, (t.withLeaf a).containerFlags = t.containerFlags
  | ⟨_, _, _, _, _, _, _, none, _⟩ => by
      rw [withLeaf, containerFlags, layers_of_inner_none ha, List.filter_cons_of_neg (by simp [ha])]
      rfl
  | ⟨_, isContainer, isMap, _, _, _, _, some inner, _⟩ =>
      congrArg ((isContainer, isMap) :: ·) (containerFlags_withLeaf ha inner)

/-! ## Relabelling leaves -/

/-- **What becomes of a leaf**: a reference gets the class name of its model, or becomes the type of
any value when there is none; anything else stays. -/
lemma relabel_leaf (h : t.inner = none) :
    t.relabel classNames = match t.reference with
      | none => (t, none)
      | some key => match classNames key with
        | some className => ({ t with name := className }, none)
        | none => (dynamic, some key) := by
  obtain ⟨_, _, _, _, _, _, _ | key, _ | _, _⟩ := t
  · rfl
  · cases h
  · rfl
  · cases h

/-- A leaf becomes a leaf. -/
lemma inner_relabel_leaf (h : t.inner = none) : (t.relabel classNames).1.inner = none := by
  rw [relabel_leaf h]
  split
  · exact h
  · split
    · exact h
    · rfl

/-- A second time with the same look-up nothing happens to a leaf. -/
lemma relabel_relabel_leaf_self (h : t.inner = none) :
    (t.relabel classNames).1.relabel classNames = ((t.relabel classNames).1, none) := by
  rw [relabel_leaf (inner_relabel_leaf h), relabel_leaf h]
  cases hkey : t.reference with
  | none => simp [hkey]
  | some key => cases hname : classNames key <;> simp [hname, dynamic, primitive]

/-- A leaf that led somewhere keeps no trace of the first look-up. -/
lemma relabel_relabel_leaf (h : t.inner = none)
    (hknown : ∀ key ∈ t.reference, (classNames key).isSome = true) :
    (t.relabel classNames).1.relabel classNames' = t.relabel classNames' := by
  rw [relabel_leaf (inner_relabel_leaf h), relabel_leaf h, relabel_leaf h]
  cases hkey : t.reference with
  | none => simp [hkey]
  | some key =>
    obtain ⟨className, hname⟩ := Option.isSome_iff_exists.1 (hknown key hkey)
    simp [hname]

/-! ## Relabelling types -/

/-- **Relabelling a type is relabelling its leaf.** -/
lemma relabel_eq_withLeaf : ∀ t : TypeDescriptor, t.relabel classNames =
    (t.withLeaf (t.leaf.relabel classNames).1, (t.leaf.relabel classNames).2)
  | ⟨_, _, _, _, _, _, _, none, _⟩ => rfl
  | ⟨_, _, _, _, _, _, _, some inner, _⟩ => by
      rw [relabel, relabel_eq_withLeaf inner]
      rfl

/-- Relabelling a type twice is relabelling its leaf twice. -/
lemma relabel_relabel_eq_withLeaf (t : TypeDescriptor) :
    (t.relabel classNames).1.relabel classNames' =
      (t.withLeaf ((t.leaf.relabel classNames).1.relabel classNames').1,
        ((t.leaf.relabel classNames).1.relabel classNames').2) := by
  have hinner : (t.leaf.relabel classNames).1.inner = none := inner_relabel_leaf t.inner_leaf
  rw [relabel_eq_withLeaf t, relabel_eq_withLeaf (t.withLeaf _), leaf_withLeaf hinner,
    withLeaf_withLeaf hinner]

lemma relabel_listOf (t : TypeDescriptor) : (listOf t).relabel classNames =
    (listOf (t.relabel classNames).1, (t.relabel classNames).2) :=
  rfl

lemma relabel_mapOf (t : TypeDescriptor) : (mapOf t).relabel classNames =
    (mapOf (t.relabel classNames).1, (t.relabel classNames).2) :=
  rfl

/-- **Only the last look-up matters.**  Relabelling a second time with the same look-up changes
nothing and tells of nothing, and a type whose leaf leads somewhere, or is no reference, comes out of
a second look-up as if there had been no first one.  Relabelling goes through lists and maps, and
keeps the number of layers and what the type says of its containers.  It tells of a key just when the
leaf refers to it and it has no class name, and the leaf is the type of any value then. -/
theorem relabel_lastLookup (classNames classNames' : String → Option String)
    (t : TypeDescriptor) :
    (t.relabel classNames).1.relabel classNames = ((t.relabel classNames).1, none) ∧
    ((∀ key ∈ t.leaf.reference, (classNames key).isSome = true) →
      (t.relabel classNames).1.relabel classNames' = t.relabel classNames') ∧
    (listOf t).relabel classNames = (listOf (t.relabel classNames).1, (t.relabel classNames).2) ∧
    (mapOf t).relabel classNames = (mapOf (t.relabel classNames).1, (t.relabel classNames).2) ∧
    (t.relabel classNames).1.layers.length = t.layers.length ∧
    (t.relabel classNames).1.containerFlags = t.containerFlags ∧
    ∀ key, ((t.relabel classNames).2 = some key ↔
        t.leaf.reference = some key ∧ classNames key = none) ∧
      ((t.relabel classNames).2 = some key → (t.relabel classNames).1.leaf = dynamic) := by
  have hinner : (t.leaf.relabel classNames).1.inner = none := inner_relabel_leaf t.inner_leaf
  have htold : ∀ key, (t.relabel classNames).2 = some key ↔
      t.leaf.reference = some key ∧ classNames key = none := fun key => by
    rw [relabel_snd, Option.filter_eq_some_iff, Option.isNone_iff_eq_none]
  refine ⟨?_, fun hknown => ?_, relabel_listOf t, relabel_mapOf t, ?_, ?_, fun key =>
    ⟨htold key, fun h => ?_⟩⟩
  · rw [relabel_relabel_eq_withLeaf, relabel_relabel_leaf_self t.inner_leaf,
      relabel_eq_withLeaf t]
  · rw [relabel_relabel_eq_withLeaf, relabel_relabel_leaf t.inner_leaf hknown,
      ← relabel_eq_withLeaf]
  · rw [relabel_eq_withLeaf]
    exact length_layers_withLeaf hinner t
  · rw [relabel_eq_withLeaf]
    exact containerFlags_withLeaf hinner t
  · obtain ⟨hreference, hnone⟩ := (htold key).1 h
    rw [relabel_eq_withLeaf, leaf_withLeaf hinner, relabel_leaf t.inner_leaf]
    simp only [hreference, hnone]

/-- Lists of maps to pets. -/
def petMaps : TypeDescriptor :=
  listOf (mapOf (model "pet" "Pet"))

/-- Cats that are called dogs in the end are called dogs, and without pets there are values. -/
theorem petMaps_relabel_lastLookup :
    (∀ key ∈ petMaps.leaf.reference, ((fun _ => some "Cat") key : Option String).isSome = true) ∧
    (petMaps.relabel fun _ => some "Cat").1.relabel (fun _ => some "Dog") =
      petMaps.relabel (fun _ => some "Dog") ∧
    (petMaps.relabel fun _ => some "Dog").1.name = "Vec<HashMap<String, Dog>>" ∧
    (petMaps.relabel fun _ => none).2 = some "pet" ∧
    (petMaps.relabel fun _ => none).1.leaf = dynamic ∧
    (petMaps.relabel fun _ => none).1.name = "Vec<HashMap<String, Value>>" := by
  have hknown : ∀ key ∈ petMaps.leaf.reference,
      ((fun _ => some "Cat") key : Option String).isSome = true := fun _ _ => rfl
  obtain ⟨-, hlast, -⟩ := relabel_lastLookup (fun _ => some "Cat") (fun _ => some "Dog") petMaps
  obtain ⟨-, -, -, -, -, -, hlost⟩ := relabel_lastLookup (fun _ => none) (fun _ => none) petMaps
  exact ⟨hknown, hlast hknown, rfl, rfl, (hlost "pet").2 rfl, rfl⟩

end ApiTypes.TypeDescriptor
