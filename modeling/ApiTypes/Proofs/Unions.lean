import ApiTypes.Proofs.Types
import ApiTypes.Resolution.Union

/-!
# How unions are made

A union is made of the types of its variants.  Each variant has its type from its node, and
everything else that it is given follows from these two.  So what holds of the variants of a union
need only be shown of one, whose node has a type at some location.

* `SchemaNode.DeclaresProperties` — the variants that are no variants of their own type, but maps.
* `Scope.VariantType` — **the type of a variant**, one case each.
* `SchemaNode.asVariant` — what a variant is given with its type.
* `variantTypes_eq_mapM`, `candidates_eq_mapM` — a union is made variant by variant, at their places.
* `getElem?_numberVariants`, `mem_numberVariants` — variants get other names and stay the same else.
* `soleType_unionOf` — a union comes to the same type as its variants.
* `Scope.gives_flatten`, `Scope.exists_variantType` — where a union and its variants come from.
-/

namespace ApiTypes

open Resolving
open TypeDescriptor (Current)

/-! ## Types of variants -/

/-- An object with declared properties. -/
def SchemaNode.DeclaresProperties (node : SchemaNode) : Prop :=
  ∃ schema, node.shape = .object schema ∧ schema.properties ≠ []

lemma SchemaNode.firstProperty?_eq_some_iff {node : SchemaNode} {e : String × SchemaNode} :
    node.firstProperty? = some e ↔
      ∃ schema rest, node.shape = .object schema ∧ schema.properties = e :: rest := by
  rw [firstProperty?]
  split
  · rename_i schema hshape
    simp [hshape, List.head?_eq_some_iff]
  · rename_i hother
    exact iff_of_false (by simp) fun ⟨schema, rest, hshape, _⟩ => hother schema hshape

lemma SchemaNode.isSome_firstProperty?_iff {node : SchemaNode} :
    node.firstProperty?.isSome = true ↔ node.DeclaresProperties := by
  simp only [Option.isSome_iff_exists, firstProperty?_eq_some_iff, DeclaresProperties,
    List.ne_nil_iff_exists_cons]
  constructor
  · rintro ⟨e, schema, rest, hshape, hproperties⟩
    exact ⟨schema, hshape, e, rest, hproperties⟩
  · rintro ⟨schema, hshape, e, rest, hproperties⟩
    exact ⟨e, schema, rest, hshape, hproperties⟩

instance (node : SchemaNode) : Decidable node.DeclaresProperties :=
  decidable_of_iff _ SchemaNode.isSome_firstProperty?_iff

namespace Scope

/-- **The type of a variant.**  An object with declared properties counts as a map to the type of the
first of them, and every other node has its own type. -/
inductive VariantType (scope : Scope) (location : String) (node : SchemaNode) :
    TypeDescriptor → Prop where
  | object {schema : ObjectSchema} {name : String} {first : SchemaNode}
      {rest : List (String × SchemaNode)} {inner : TypeDescriptor}
      (hshape : node.shape = .object schema) (hproperties : schema.properties = (name, first) :: rest)
      (hinner : Gives (scope.schemaType first (propertyLocation location name)) inner) :
      VariantType scope location node (.mapOf inner)
  | other {type : TypeDescriptor} (hdeclares : ¬ node.DeclaresProperties)
      (htype : Gives (scope.schemaType node location) type) : VariantType scope location node type

end Scope

/-- What a variant is given with its type, but for its name. -/
def SchemaNode.asVariant (node : SchemaNode) (type : TypeDescriptor) : PropertyDescriptor :=
  { name := ""
    baseName := ""
    type := type
    items := type.items
    required := true
    extensions := Extensions.flagContainer
      (Extensions.flagIf [] .isObject node.firstProperty?.isSome) type }

namespace Scope

variable {scope : Scope} {node : SchemaNode} {location : String} {type : TypeDescriptor}

lemma VariantType.current (h : scope.VariantType location node type) :
    type.Current scope.registry.className? := by
  cases h with
  | object hshape hproperties hinner => exact .mapOf (schemaType_current _ _ _ hinner)
  | other hdeclares htype => exact schemaType_current _ _ _ htype

lemma variantType_of_firstProperty? {name : String} {first : SchemaNode}
    (hfirst : node.firstProperty? = some (name, first)) :
    scope.VariantType location node type ↔
      ∃ inner, Gives (scope.schemaType first (propertyLocation location name)) inner ∧
        .mapOf inner = type := by
  obtain ⟨schema, rest, hshape, hproperties⟩ := SchemaNode.firstProperty?_eq_some_iff.1 hfirst
  constructor
  · intro h
    cases h with
    | object hshape' hproperties' hinner =>
      obtain rfl := Shape.object.inj (hshape.symm.trans hshape')
      obtain ⟨heq, -⟩ := List.cons.inj (hproperties.symm.trans hproperties')
      obtain ⟨rfl, rfl⟩ := Prod.mk.inj heq
      exact ⟨_, hinner, rfl⟩
    | other hdeclares htype => exact absurd ⟨schema, hshape, by simp [hproperties]⟩ hdeclares
  · rintro ⟨inner, hinner, rfl⟩
    exact .object hshape hproperties hinner

lemma variantType_of_not_declares (hdeclares : ¬ node.DeclaresProperties) :
    scope.VariantType location node type ↔ Gives (scope.schemaType node location) type := by
  constructor
  · intro h
    cases h with
    | object hshape hproperties hinner =>
      exact absurd ⟨_, hshape, by simp [hproperties]⟩ hdeclares
    | other _ htype => exact htype
  · exact .other hdeclares

/-- A variant is made of its type. -/
lemma gives_candidate {p : PropertyDescriptor} :
    Gives (scope.candidate node location) p ↔
      scope.VariantType location node p.type ∧ p = node.asVariant p.type := by
  rw [candidate]
  split
  · rename_i name first hfirst
    simp only [variantType_of_firstProperty? hfirst, gives_bind, gives_pure, SchemaNode.asVariant,
      hfirst]
    constructor
    · rintro ⟨inner, hinner, rfl⟩
      exact ⟨⟨inner, hinner, rfl⟩, rfl⟩
    · rintro ⟨⟨inner, hinner, htype⟩, hp⟩
      exact ⟨inner, hinner, by rw [hp, ← htype]; rfl⟩
  · rename_i hnone
    have hdeclares : ¬ node.DeclaresProperties := by
      rw [← SchemaNode.isSome_firstProperty?_iff, hnone]
      exact Bool.false_ne_true
    simp only [variantType_of_not_declares hdeclares, gives_bind, gives_pure, SchemaNode.asVariant,
      hnone]
    constructor
    · rintro ⟨type, htype, rfl⟩
      exact ⟨htype, rfl⟩
    · rintro ⟨htype, hp⟩
      exact ⟨_, htype, hp.symm⟩

/-! ## Variants at their places -/

/-- The types of the variants are found one by one. -/
lemma variantTypes_eq_mapM (scope : Scope) (location : String) (nodes : List SchemaNode)
    (place : Nat) :
    scope.variantTypes nodes location place =
      (nodes.zipIdx place).mapM fun e => scope.schemaType e.1 (variantLocation location e.2) := by
  induction nodes generalizing place with
  | nil => rfl
  | cons node nodes ih => rw [variantTypes, List.zipIdx_cons, List.mapM_cons, ih]

/-- So are the candidates of a union. -/
lemma candidates_eq_mapM (scope : Scope) (union : String) (nodes : List SchemaNode) (place : Nat) :
    scope.candidates union nodes place =
      (nodes.zipIdx place).mapM fun e => scope.candidate e.1 (variantLocation union e.2) := by
  induction nodes generalizing place with
  | nil => rfl
  | cons node nodes ih => rw [candidates, List.zipIdx_cons, List.mapM_cons, ih]

end Scope

/-! ## Names of variants -/

lemma getElem?_numberVariants (name : String) (ps : List PropertyDescriptor) (place i : Nat) :
    (numberVariants name ps place)[i]? = ps[i]?.map fun p =>
      { p with
        name := variantNameAt name (place + i)
        baseName := variantNameAt name (place + i) } := by
  induction ps generalizing place i with
  | nil => rfl
  | cons p ps ih =>
    cases i with
    | zero => rfl
    | succ i => simp [numberVariants, ih, Nat.add_right_comm, Nat.add_assoc]

/-- **The numbered variants are the given ones under other names**, in the same order. -/
lemma forall₂_numberVariants (name : String) (ps : List PropertyDescriptor) (place : Nat) :
    List.Forall₂ (fun v p => ∃ name, v = { p with name := name, baseName := name })
      (numberVariants name ps place) ps := by
  induction ps generalizing place with
  | nil => exact .nil
  | cons p ps ih => exact .cons ⟨_, rfl⟩ (ih (place + 1))

lemma mem_numberVariants {union : String} {ps : List PropertyDescriptor} {place : Nat}
    {v : PropertyDescriptor} (h : v ∈ numberVariants union ps place) :
    ∃ p ∈ ps, ∃ name, v = { p with name := name, baseName := name } :=
  exists_left_of_forall₂ (forall₂_numberVariants union ps place).flip h

lemma types_numberVariants (name : String) (ps : List PropertyDescriptor) (place : Nat) :
    (numberVariants name ps place).map (·.type) = ps.map (·.type) := by
  rw [← List.forall₂_eq_eq_eq, List.forall₂_map_left_iff, List.forall₂_map_right_iff]
  exact (forall₂_numberVariants name ps place).imp fun v p ⟨_, hv⟩ => hv ▸ rfl

/-! ## Unions -/

/-- A property that is a union has the type that those of its variants come to. -/
lemma soleType_unionOf (name : String) (ps : List PropertyDescriptor) :
    soleType (unionOf name ps) = soleOf (ps.map (·.type)) := by
  rw [soleType, soleOf, firstSeen_map, unionOf]
  rcases firstSeen (fun p q : PropertyDescriptor => p.type.sameType q.type) ps with
    _ | ⟨only, _ | ⟨second, rest⟩⟩
  · rfl
  · rfl
  · rfl

namespace Scope

variable {scope : Scope} {name : String} {variants : List SchemaNode} {u : UnionDescriptor}

/-- **A union is made of the types of its variants.** -/
lemma gives_flatten :
    Gives (scope.flatten name variants) u ↔
      ∃ ps, List.Forall₂ (fun e p => scope.VariantType (variantLocation name e.2) e.1 p.type ∧
        p = e.1.asVariant p.type) variants.zipIdx ps ∧ unionOf name ps = u := by
  simp only [flatten, gives_bind, gives_pure, candidates_eq_mapM, gives_mapM, gives_candidate]

/-- **Where a variant of a union comes from**: from a node with its type. -/
lemma exists_variantType (h : Gives (scope.flatten name variants) u) :
    ∀ v ∈ u.variants, ∃ node ∈ variants, ∃ location type, scope.VariantType location node type ∧
      ∃ name, v = { node.asVariant type with name := name, baseName := name } := by
  obtain ⟨ps, hps, rfl⟩ := gives_flatten.1 h
  intro v hv
  obtain ⟨p, hp, name, rfl⟩ := mem_numberVariants hv
  obtain ⟨e, he, htype, hmade⟩ := exists_left_of_forall₂ hps (firstSeen_subset _ ps hp)
  exact ⟨e.1, List.fst_mem_of_mem_zipIdx he, _, _, htype, name, hmade ▸ rfl⟩

end Scope

end ApiTypes
