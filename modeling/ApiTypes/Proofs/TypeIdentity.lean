import ApiTypes.Proofs.RegistryHistory
import ApiTypes.Proofs.TypeEquality
import ApiTypes.Text.Latin

/-!
# Types that are the same

Types are compared by their names alone.  This file says when two types are the same without looking
at a name, by what they are made of from outside in, and shows that the comparison finds just that
for all types that schemas resolve to.  So leaving out types that count as the same never takes one
model for another, nor a model for a primitive type.

* `TypeDescriptor.Alike` — **types that are the same**, by one case for each way to make a type.
* `Alike.references_eq`, `Alike.isDisplayable_eq` — what such types have in common.
* `Current.alike_iff` — they are those that are built of the same.
* `Registry.ofRegistrations` — a registry as registrations make it.
* `sameType_iff_alike` — **types count as the same just when they are.**
-/

namespace ApiTypes

open Resolving

namespace TypeDescriptor

/-! ## Types that are made alike -/

/-- **Types that are the same**: lists and maps of the same, down to the same primitive type or to
references with the same key.  Formats make no difference, nor does it whether a type was made up.  A
text of bytes is the same as a list of bytes. -/
inductive Alike : TypeDescriptor → TypeDescriptor → Prop where
  | primitive (p : Primitive) (format format' : Option String) (synthesized synthesized' : Bool) :
      Alike { primitive p with format := format, synthesized := synthesized }
        { primitive p with format := format', synthesized := synthesized' }
  | model (key className className' : String) : Alike (model key className) (model key className')
  | listOf {t u : TypeDescriptor} (h : Alike t u) : Alike (listOf t) (listOf u)
  | mapOf {t u : TypeDescriptor} (h : Alike t u) : Alike (mapOf t) (mapOf u)
  | bytes (format format' : Option String) (synthesized synthesized' : Bool) :
      Alike { primitive .bytes with format := format, synthesized := synthesized }
        (listOf { primitive (.integer .unsigned .bits8) with
          format := format', synthesized := synthesized' })
  | listOfBytes (format format' : Option String) (synthesized synthesized' : Bool) :
      Alike (listOf { primitive (.integer .unsigned .bits8) with
          format := format, synthesized := synthesized })
        { primitive .bytes with format := format', synthesized := synthesized' }

variable {classNames : String → Option String} {t u : TypeDescriptor}

/-- The same types refer to the same models. -/
lemma Alike.references_eq (h : t.Alike u) : t.references = u.references := by
  induction h with
  | primitive p => rfl
  | model key => rfl
  | listOf _ ih => rw [references_listOf, references_listOf, ih]
  | mapOf _ ih => rw [references_mapOf, references_mapOf, ih]
  | bytes => rfl
  | listOfBytes => rfl

lemma Alike.reference_eq (h : t.Alike u) : t.reference = u.reference := by
  cases h <;> rfl

/-- They are printed the same way. -/
lemma Alike.isDisplayable_eq (h : t.Alike u) : t.isDisplayable = u.isDisplayable := by
  cases h <;> rfl

/-! ## What types are built of -/

lemma build_listOf (t : TypeDescriptor) : (listOf t).build = (false :: t.build.1, t.build.2) := by
  rw [build, build, leaf_listOf]
  split <;> rfl

lemma build_mapOf (t : TypeDescriptor) : (mapOf t).build = (true :: t.build.1, t.build.2) := by
  rw [build, build, leaf_mapOf]
  split <;> rfl

/-- The same types are built of the same. -/
lemma Alike.build_eq (h : t.Alike u) : t.build = u.build := by
  induction h with
  | primitive p => rw [build_primitive, build_primitive]
  | model key className className' => rw [build_model, build_model]
  | listOf _ ih => rw [build_listOf, build_listOf, ih]
  | mapOf _ ih => rw [build_mapOf, build_mapOf, ih]
  | bytes => rfl
  | listOfBytes => rfl

namespace Current

/-- A type that is built of nothing but a primitive type is that. -/
lemma eq_primitive (ht : t.Current classNames) {p : Primitive}
    (h : t.build = ([], .primitive p)) :
    ∃ format synthesized, t =
      { TypeDescriptor.primitive p with format := format, synthesized := synthesized } := by
  cases ht with
  | primitive q format synthesized =>
    rw [build_primitive] at h
    split at h
    · cases h
    · obtain rfl := Atom.primitive.inj (Prod.mk.inj h).2
      exact ⟨format, synthesized, rfl⟩
  | model hname => cases h
  | listOf hinner => exact absurd h (build_ne_of_nesting rfl _)
  | mapOf hinner => exact absurd h (build_ne_of_nesting rfl _)

/-- One that is built of nothing but a model refers to it. -/
lemma eq_model (ht : t.Current classNames) {key : String} (h : t.build = ([], .model key)) :
    ∃ className, t = TypeDescriptor.model key className := by
  cases ht with
  | primitive q format synthesized =>
    rw [build_primitive] at h
    split at h <;> cases h
  | @model key' className hname =>
    obtain rfl := Atom.model.inj (Prod.mk.inj h).2
    exact ⟨className, rfl⟩
  | listOf hinner => exact absurd h (build_ne_of_nesting rfl _)
  | mapOf hinner => exact absurd h (build_ne_of_nesting rfl _)

/-- One that is built of a list is a list, or a text of bytes. -/
lemma eq_listOf (ht : t.Current classNames) {nesting : List Bool} {atom : Atom}
    (h : t.build = (false :: nesting, atom)) :
    (∃ inner, inner.Current classNames ∧ inner.build = (nesting, atom) ∧
        t = TypeDescriptor.listOf inner) ∨
      nesting = [] ∧ atom = .primitive (.integer .unsigned .bits8) ∧
        ∃ format synthesized, t =
          { TypeDescriptor.primitive .bytes with format := format, synthesized := synthesized } := by
  cases ht with
  | primitive q format synthesized =>
    rw [build_primitive] at h
    split at h
    · rename_i hbytes
      subst hbytes
      cases h
      exact Or.inr ⟨rfl, rfl, format, synthesized, rfl⟩
    · cases h
  | model hname => cases h
  | @listOf inner hinner =>
    rw [build_listOf] at h
    cases h
    exact Or.inl ⟨inner, hinner, rfl, rfl⟩
  | mapOf hinner =>
    rw [build_mapOf] at h
    cases h

/-- One that is built of a map is a map. -/
lemma eq_mapOf (ht : t.Current classNames) {nesting : List Bool} {atom : Atom}
    (h : t.build = (true :: nesting, atom)) :
    ∃ inner, inner.Current classNames ∧ inner.build = (nesting, atom) ∧
      t = TypeDescriptor.mapOf inner := by
  cases ht with
  | primitive q format synthesized =>
    rw [build_primitive] at h
    split at h <;> cases h
  | model hname => cases h
  | listOf hinner =>
    rw [build_listOf] at h
    cases h
  | @mapOf inner hinner =>
    rw [build_mapOf] at h
    cases h
    exact ⟨inner, hinner, rfl, rfl⟩

/-- **Types that are built of the same are the same.** -/
lemma alike_of_build_eq (ht : t.Current classNames) (hu : u.Current classNames)
    (h : t.build = u.build) : t.Alike u := by
  -- along the first type; what the second one is, its build tells
  induction ht generalizing u with
  | primitive p format synthesized =>
    rw [build_primitive] at h
    by_cases hbytes : p = .bytes
    · subst hbytes
      obtain ⟨inner, hinner, hbuild, rfl⟩ | ⟨-, -, format', synthesized', rfl⟩ := hu.eq_listOf h.symm
      · obtain ⟨format', synthesized', rfl⟩ := hinner.eq_primitive hbuild
        exact .bytes format format' synthesized synthesized'
      · exact .primitive .bytes format format' synthesized synthesized'
    · rw [if_neg hbytes] at h
      obtain ⟨format', synthesized', rfl⟩ := hu.eq_primitive h.symm
      exact .primitive p format format' synthesized synthesized'
  | @model key className hname =>
    obtain ⟨className', rfl⟩ := hu.eq_model h.symm
    exact .model key className className'
  | listOf hinner ih =>
    rw [build_listOf] at h
    obtain ⟨inner', hinner', hbuild, rfl⟩ | ⟨hnesting, hatom, format', synthesized', rfl⟩ :=
      hu.eq_listOf h.symm
    · exact .listOf (ih hinner' hbuild.symm)
    · obtain ⟨format, synthesized, rfl⟩ := hinner.eq_primitive (Prod.ext hnesting hatom)
      exact .listOfBytes format format' synthesized synthesized'
  | mapOf hinner ih =>
    rw [build_mapOf] at h
    obtain ⟨inner', hinner', hbuild, rfl⟩ := hu.eq_mapOf h.symm
    exact .mapOf (ih hinner' hbuild.symm)

lemma alike_iff (ht : t.Current classNames) (hu : u.Current classNames) :
    t.Alike u ↔ t.build = u.build :=
  ⟨Alike.build_eq, ht.alike_of_build_eq hu⟩

end Current

end TypeDescriptor

/-! ## Registries as registrations make them -/

/-- A registry after registrations of keys with their origins, in order. -/
def Registry.ofRegistrations [Spelling] (registrations : List (String × Origin)) : Registry :=
  Registry.empty.performAll (registrations.map fun e => .register e.1 e.2)

lemma Registry.legalNames_ofRegistrations [Spelling] (registrations : List (String × Origin)) :
    (ofRegistrations registrations).LegalNames := by
  suffices h : ∀ r : Registry, r.LegalNames →
      (r.performAll (registrations.map fun e => .register e.1 e.2)).LegalNames from
    h empty (by rintro _ ⟨⟩)
  induction registrations with
  | nil => exact fun r h => h
  | cons e registrations ih => exact fun r h => ih _ (h.register e.1 e.2)

lemma Registry.unambiguous_ofRegistrations [Spelling] (registrations : List (String × Origin)) :
    Unambiguous (ofRegistrations registrations).className? :=
  (consistent_empty.performAll _).unambiguous (legalNames_ofRegistrations registrations)

/-- **Types count as the same just when they are**, when two schemas resolve to them with the same
registered models.  Then they lead to the same models and are printed the same way. -/
theorem sameType_iff_alike [Spelling] (registrations : List (String × Origin)) (config : Config)
    {node node' : SchemaNode} {location location' : String} {t u : TypeDescriptor}
    (ht : Gives (Scope.schemaType ⟨.ofRegistrations registrations, config⟩ node location) t)
    (hu : Gives (Scope.schemaType ⟨.ofRegistrations registrations, config⟩ node' location') u) :
    (t.sameType u = true ↔ t.Alike u) ∧
      (t.sameType u = true → t.reference = u.reference ∧ t.references = u.references ∧
        t.isDisplayable = u.isDisplayable) := by
  have hnames := Registry.unambiguous_ofRegistrations registrations
  have hcurrent := Scope.schemaType_current node location t ht
  have hcurrent' := Scope.schemaType_current node' location' u hu
  have hiff : t.sameType u = true ↔ t.Alike u :=
    (hcurrent.sameType_iff hnames hcurrent').trans (hcurrent.alike_iff hcurrent').symm
  refine ⟨hiff, fun h => ?_⟩
  have halike := hiff.1 h
  exact ⟨halike.reference_eq, halike.references_eq, halike.isDisplayable_eq⟩

/-- Two models whose class names were made from one. -/
def twoPets : List (String × Origin) :=
  [("pet", .declared), ("Pet", .declared)]

/-- A list of texts of bytes, and a list of lists of bytes. -/
def byteLists : SchemaNode × SchemaNode :=
  (⟨.array (some ⟨.scalar { kind := .string, format := some "binary" }, []⟩), []⟩,
    ⟨.array (some ⟨.array (some ⟨.scalar { kind := .integer, format := some "uint8" }, []⟩), []⟩), []⟩)

lemma exists_schemaType_byteLists :
    (∃ t, Gives (Scope.schemaType ⟨.ofRegistrations twoPets, {}⟩ byteLists.1 "left") t ∧
      t.name = "Vec<Vec<u8>>") ∧
    ∃ t, Gives (Scope.schemaType ⟨.ofRegistrations twoPets, {}⟩ byteLists.2 "right") t ∧
      t.name = "Vec<Vec<u8>>" :=
  ⟨exists_gives_of (by decide +kernel), exists_gives_of (by decide +kernel)⟩

lemma exists_schemaType_twoPets :
    (∃ t, Gives (Scope.schemaType ⟨.ofRegistrations twoPets, {}⟩ ⟨.reference "pet", []⟩ "left") t ∧
      (t.name, t.reference) = ("Pet", some "pet")) ∧
    ∃ t, Gives (Scope.schemaType ⟨.ofRegistrations twoPets, {}⟩ ⟨.reference "Pet", []⟩ "right") t ∧
      (t.name, t.reference) = ("Pet2", some "Pet") :=
  ⟨exists_gives_of (by decide +kernel), exists_gives_of (by decide +kernel)⟩

/-- A list of texts of bytes is the same as a list of lists of bytes, but the two models differ. -/
theorem twoPets_sameType_iff_alike :
    (∃ t u, Gives (Scope.schemaType ⟨.ofRegistrations twoPets, {}⟩ byteLists.1 "left") t ∧
      Gives (Scope.schemaType ⟨.ofRegistrations twoPets, {}⟩ byteLists.2 "right") u ∧
      t.sameType u = true ∧ t.Alike u) ∧
    ∃ t u, Gives (Scope.schemaType ⟨.ofRegistrations twoPets, {}⟩ ⟨.reference "pet", []⟩ "left") t ∧
      Gives (Scope.schemaType ⟨.ofRegistrations twoPets, {}⟩ ⟨.reference "Pet", []⟩ "right") u ∧
      t.sameType u = false ∧ ¬ t.Alike u := by
  constructor
  · obtain ⟨⟨t, ht, htname⟩, u, hu, huname⟩ := exists_schemaType_byteLists
    have hsame : t.sameType u = true := by
      rw [TypeDescriptor.sameType, TypeDescriptor.canonicalName, TypeDescriptor.canonicalName,
        htname, huname, beq_self_eq_true]
    exact ⟨t, u, ht, hu, hsame, (sameType_iff_alike twoPets {} ht hu).1.1 hsame⟩
  · obtain ⟨⟨t, ht, htview⟩, u, hu, huview⟩ := exists_schemaType_twoPets
    obtain ⟨hiff, hfacts⟩ := sameType_iff_alike twoPets {} ht hu
    have hdiffer : ¬ t.sameType u = true := fun h => by
      have hreference := (hfacts h).1
      rw [(Prod.mk.inj htview).2, (Prod.mk.inj huview).2] at hreference
      exact absurd hreference (by decide)
    exact ⟨t, u, ht, hu, Bool.eq_false_iff.2 hdiffer, fun h => hdiffer (hiff.2 h)⟩

end ApiTypes
