import ApiTypes.Proofs.Types

/-!
# Types from outside in

A type is a number of lists and maps around a leaf, which is a primitive type or leads to a model.
Relabelling looks at the leaf alone, and the lists and maps around it get their names from it.

* `TypeDescriptor.leaf`, `TypeDescriptor.nesting` — the leaf, and what stands around it.
* `relabel_snd` — relabelling tells of the key of a leaf that leads nowhere.
* `leaf_relabelType`, `nesting_relabelType` — it changes the leaf and keeps what stands around it.
* `Current.references_eq`, `Current.name_eq` — of the types that a run makes, all references and the
  whole name are told by these two.
-/

namespace ApiTypes

namespace TypeDescriptor

/-- The type inside all lists and maps. -/
def leaf : TypeDescriptor → TypeDescriptor
  | t@⟨_, _, _, _, _, _, _, none, _⟩ => t
  | ⟨_, _, _, _, _, _, _, some inner, _⟩ => inner.leaf
termination_by structural t => t

/-- Which of the containers around the leaf are maps, from outside in. -/
def nesting : TypeDescriptor → List Bool
  | ⟨_, _, _, _, _, _, _, none, _⟩ => []
  | ⟨_, _, isMap, _, _, _, _, some inner, _⟩ => isMap :: inner.nesting
termination_by structural t => t

/-- The name of containers around a leaf. -/
def nestedName : (nesting : List Bool) → (leaf : String) → String
  | [], leaf => leaf
  | true :: nesting, leaf => mapName (nestedName nesting leaf)
  | false :: nesting, leaf => listName (nestedName nesting leaf)

variable {classNames : String → Option String} {t : TypeDescriptor}

@[simp] lemma leaf_listOf (t : TypeDescriptor) : (listOf t).leaf = t.leaf :=
  rfl

@[simp] lemma leaf_mapOf (t : TypeDescriptor) : (mapOf t).leaf = t.leaf :=
  rfl

/-! ## Relabelling -/

/-- **Relabelling tells of the key of a leaf** when no model has it. -/
theorem relabel_snd : ∀ t : TypeDescriptor,
    (t.relabel classNames).2 = t.leaf.reference.filter fun key => (classNames key).isNone
  | ⟨_, _, _, _, _, _, none, none, _⟩ => rfl
  | ⟨_, _, _, _, _, _, some key, none, _⟩ => by
      simp only [relabel, leaf]
      cases hkey : classNames key <;> simp [Option.filter, hkey]
  | ⟨_, _, _, _, _, _, _, some inner, _⟩ => relabel_snd inner

/-- **It changes the leaf**, as if that stood alone. -/
theorem leaf_relabelType : ∀ t : TypeDescriptor,
    (relabelType classNames t).leaf = relabelType classNames t.leaf
  | ⟨_, _, _, _, _, _, none, none, _⟩ => rfl
  | ⟨_, _, _, _, _, _, some key, none, _⟩ => by
      simp only [relabelType, relabel, leaf]
      cases classNames key <;> rfl
  | ⟨_, _, _, _, _, _, _, some inner, _⟩ => leaf_relabelType inner

/-- **It keeps the containers.** -/
theorem nesting_relabelType : ∀ t : TypeDescriptor,
    (relabelType classNames t).nesting = t.nesting
  | ⟨_, _, _, _, _, _, none, none, _⟩ => rfl
  | ⟨_, _, _, _, _, _, some key, none, _⟩ => by
      simp only [relabelType, relabel]
      cases classNames key <;> rfl
  | ⟨_, _, isMap, _, _, _, _, some inner, _⟩ => congrArg (isMap :: ·) (nesting_relabelType inner)

/-! ## The types that a run makes -/

namespace Current

/-- The leaf of such a type is a primitive type, or leads to a model. -/
lemma leaf_cases (h : Current classNames t) :
    (∃ p format synthesized, t.leaf =
      { TypeDescriptor.primitive p with format := format, synthesized := synthesized }) ∨
    ∃ key className, classNames key = some className ∧
      t.leaf = TypeDescriptor.model key className := by
  induction h with
  | primitive p format synthesized => exact Or.inl ⟨p, format, synthesized, rfl⟩
  | @model key className h => exact Or.inr ⟨key, className, h, rfl⟩
  | listOf h ih => exact ih
  | mapOf h ih => exact ih

/-- Nothing but the leaf leads anywhere. -/
lemma references_eq (h : Current classNames t) : t.references = t.leaf.reference.toList := by
  induction h with
  | primitive p format synthesized => rfl
  | model h => rfl
  | listOf h ih => rw [references_listOf, ih, leaf_listOf]
  | mapOf h ih => rw [references_mapOf, ih, leaf_mapOf]

/-- The name is that of the leaf with the containers around it. -/
lemma name_eq (h : Current classNames t) : t.name = nestedName t.nesting t.leaf.name := by
  induction h with
  | primitive p format synthesized => rfl
  | model h => rfl
  | listOf h ih => exact congrArg listName ih
  | mapOf h ih => exact congrArg mapName ih

end Current

end TypeDescriptor

end ApiTypes
