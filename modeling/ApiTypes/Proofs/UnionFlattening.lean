import ApiTypes.Proofs.Extensions
import ApiTypes.Proofs.NestedNames
import Mathlib.Logic.Relation

/-!
# What is kept of a union

A union is flattened in one go: the types of its variants are found one after another, those that
count as the same as one that is kept already are left out, and each that is kept is numbered by how
many were kept before it.  This file says what comes out without going along: the first variant of
each type, in the order of the document.

* `UnionOf.KeepsFirst` — a union that keeps the first variant of each type.
* `unionOf_keepsFirst` — a union is made so from whatever types its variants have;
  `flatten_keepsFirst` — **the union of a node keeps the first variant of each type.**
-/

namespace ApiTypes

open Resolving

/-- Two variants with their types count as the same when the types do. -/
def sameSource (s s' : SchemaNode × TypeDescriptor) : Bool :=
  s.2.sameType s'.2

lemma sameSource_equivalence : Equivalence fun s s' => sameSource s s' = true :=
  TypeDescriptor.sameType_equivalence.comap Prod.snd

/-- **A union that keeps the first variant of each type** from a list of variants with their
types. -/
structure UnionOf.KeepsFirst (name : String) (sources : List (SchemaNode × TypeDescriptor))
    (u : UnionDescriptor) : Prop where
  /-- What is kept has the types that count as the same as none before them, in order, and is marked
  as an object just when it declares properties. -/
  kept : List.Forall₂ (fun v s => v.type = s.2 ∧
    (v.extensions.isFlagged Extension.isObject.key = true ↔ s.1.DeclaresProperties))
    u.variants (withoutRepeats sameSource sources)
  /-- Everything counts as the same as what is kept at one place. -/
  existsUnique : ∀ s ∈ sources, ∃! place : Nat,
    ∃ v, u.variants[place]? = some v ∧ v.type.sameType s.2 = true
  numbered : u.NumberedUnder name
  variantCount_eq : u.variantCount = u.variants.length
  /-- What is left out has a say in this, too. -/
  isDisplayable_iff : u.isDisplayable = true ↔ ∀ s ∈ sources, s.2.isDisplayable = true

/-- The variant that is made of a node and its type. -/
def asVariantOf (s : SchemaNode × TypeDescriptor) : PropertyDescriptor :=
  s.1.asVariant s.2

/-- An object with declared properties is marked, and no other variant is. -/
lemma isFlagged_isObject_asVariant (node : SchemaNode) (type : TypeDescriptor) :
    (node.asVariant type).extensions.isFlagged Extension.isObject.key = true ↔
      node.DeclaresProperties := by
  rw [← SchemaNode.isSome_firstProperty?_iff, SchemaNode.asVariant,
    Extensions.isFlagged_flagContainer, Extensions.isFlagged_flagIf, Extensions.isFlagged_nil]
  simp

/-- What is left of variants is made of what is left of their nodes and types. -/
lemma firstSeen_asVariantOf (sources : List (SchemaNode × TypeDescriptor)) :
    firstSeen (fun p q => p.type.sameType q.type) (sources.map asVariantOf) =
      (firstSeen sameSource sources).map asVariantOf :=
  firstSeen_map _ asVariantOf sources

/-- **A union keeps the first variant of each type**, whatever the types are. -/
lemma unionOf_keepsFirst (name : String) (sources : List (SchemaNode × TypeDescriptor)) :
    (unionOf name (sources.map asVariantOf)).KeepsFirst name sources where
  kept := by
    rw [unionOf, firstSeen_asVariantOf, firstSeen_eq_withoutRepeats sameSource_equivalence]
    have hnumbered := forall₂_numberVariants name
      ((withoutRepeats sameSource sources).map asVariantOf) 0
    refine (List.forall₂_map_right_iff.1 hnumbered).imp fun v s hv => ?_
    obtain ⟨name, rfl⟩ := hv
    exact ⟨rfl, isFlagged_isObject_asVariant s.1 s.2⟩
  existsUnique s hs := by
    have hplace := existsUnique_firstSeen sameSource_equivalence hs
    refine (existsUnique_congr fun place => ?_).1 hplace
    rw [unionOf, firstSeen_asVariantOf, getElem?_numberVariants, List.getElem?_map]
    cases (firstSeen sameSource sources)[place]? with
    | none => simp
    | some kept => simp [sameSource, asVariantOf, SchemaNode.asVariant]
  numbered := unionOf_numberedUnder name _
  variantCount_eq := (forall₂_numberVariants name _ 0).length_eq.symm
  isDisplayable_iff := by
    rw [unionOf, List.all_map, List.all_eq_true]
    rfl

/-- Variants that are made of their nodes and types. -/
lemma eq_map_asVariantOf {entries : List (SchemaNode × Nat)} {ps : List PropertyDescriptor}
    (h : List.Forall₂ (fun e p => p = e.1.asVariant p.type) entries ps) :
    ps = ((entries.map Prod.fst).zip (ps.map (·.type))).map asVariantOf := by
  induction h with
  | nil => rfl
  | @cons e p entries ps hp hrest ih =>
    rw [List.map_cons, List.map_cons, List.zip_cons_cons, List.map_cons, ← ih]
    exact congrArg (· :: ps) hp

/-- **The union of a node keeps the first variant of each type.**  Its variants have types, each at
its place; of those that count as the same the first is kept, in the order of the document. -/
theorem flatten_keepsFirst {scope : Scope} {name : String} {variants : List SchemaNode}
    {u : UnionDescriptor} (h : Gives (scope.flatten name variants) u) :
    ∃ types, List.Forall₂
        (fun e t => scope.VariantType (variantLocation name e.2) e.1 t) variants.zipIdx types ∧
      u.KeepsFirst name (variants.zip types) := by
  obtain ⟨ps, hps, rfl⟩ := Scope.gives_flatten.1 h
  refine ⟨ps.map (·.type), List.forall₂_map_right_iff.2 (hps.imp fun _ _ => And.left), ?_⟩
  have hmade := eq_map_asVariantOf (hps.imp fun _ _ => And.right)
  have hkeeps := unionOf_keepsFirst name (variants.zip (ps.map (·.type)))
  rw [List.zipIdx_map_fst] at hmade
  rwa [← hmade] at hkeeps

/-- Variants of which two are left out: a text without the format of the first one, and a map to the
same type as an object with declared properties counts as. -/
def sizedLabels : List SchemaNode :=
  [⟨.scalar { kind := .string, format := some "email" }, []⟩,
    ⟨.object { properties := [("size", ⟨.scalar { kind := .integer }, []⟩),
      ("label", ⟨.scalar { kind := .string }, []⟩)] }, []⟩,
    ⟨.scalar { kind := .string }, []⟩,
    ⟨.map (.schema ⟨.scalar { kind := .integer }, []⟩), []⟩]

lemma exists_flatten_sizedLabels : ∃ u,
    Gives (Scope.flatten ⟨.empty, {}⟩ "Size" sizedLabels) u ∧
      (u.variants.map fun v => (v.name, v.type.name, v.type.format)) =
        [("Size_sub_0", "String", some "email"), ("Size_sub_1", "HashMap<String, isize>", none)] :=
  exists_gives_of (by decide +kernel)

theorem sizedLabels_flatten_keepsFirst : ∃ u,
    Gives (Scope.flatten ⟨.empty, {}⟩ "Size" sizedLabels) u ∧
      (u.variants.map fun v => (v.name, v.type.name, v.type.format)) =
        [("Size_sub_0", "String", some "email"), ("Size_sub_1", "HashMap<String, isize>", none)] ∧
      ∃ types, List.Forall₂ (fun e t =>
          Scope.VariantType ⟨.empty, {}⟩ (variantLocation "Size" e.2) e.1 t)
        sizedLabels.zipIdx types ∧ u.KeepsFirst "Size" (sizedLabels.zip types) := by
  obtain ⟨u, hgives, hview⟩ := exists_flatten_sizedLabels
  exact ⟨u, hgives, hview, flatten_keepsFirst hgives⟩

end ApiTypes
