import ApiTypes.Proofs.Traversal
import Mathlib.Data.List.Forall2

/-!
# Nothing but the types

Changing the types in a descriptor leaves all else as it is, and it leaves no type out.  The one is
said by a relation between descriptors that differ in their types at most.  The other follows from
reading: of the descriptors that differ in their types at most, no two are read alike, so whatever
has a type to change has one to read.

* `PropertyDescriptor.Retyped`, `ModelDescriptor.Retyped`, `OperationDescriptor.Retyped` — a
  descriptor with other types in the same places, and nothing else in it changed;
  `PropertyDescriptor.retyped_mapTypes` and its like — changing the types makes such a one.
* `ToldApart` — what is read tells the descriptors apart that a relation allows, and it can be told
  where the reading ends.  It is closed under lists and options.
* `PropertyDescriptor.toldApart`, `ModelDescriptor.toldApart`, `OperationDescriptor.toldApart` — the
  types in a descriptor tell it apart from others with the same rest.
-/

namespace ApiTypes

/-! ## Other types in the same places -/

mutual

/-- **A property with other types** in the same places, at every depth. -/
inductive PropertyDescriptor.Retyped : PropertyDescriptor → PropertyDescriptor → Prop where
  | intro {p q : PropertyDescriptor}
      (others : q = { p with type := q.type, items := q.items, union := q.union })
      (items : q.items.isSome = p.items.isSome)
      (union : Option.Rel UnionOf.Retyped p.union q.union) : p.Retyped q

/-- A union with other types in its variants. -/
inductive UnionOf.Retyped : UnionDescriptor → UnionDescriptor → Prop where
  | intro {u w : UnionDescriptor} (others : w = { u with variants := w.variants })
      (variants : List.Forall₂ PropertyDescriptor.Retyped u.variants w.variants) : UnionOf.Retyped u w

end

/-- **A model with other types** in the same places. -/
structure ModelDescriptor.Retyped (m n : ModelDescriptor) : Prop where
  others : n = { m with type := n.type, properties := n.properties, union := n.union }
  type : n.type.isSome = m.type.isSome
  properties : List.Forall₂ PropertyDescriptor.Retyped m.properties n.properties
  union : Option.Rel UnionOf.Retyped m.union n.union

/-- A parameter with another type. -/
def ParameterDescriptor.Retyped (p q : ParameterDescriptor) : Prop :=
  q = { p with type := q.type }

/-- A response with another type if it has one. -/
structure ResponseDescriptor.Retyped (r s : ResponseDescriptor) : Prop where
  others : s = { r with type := s.type }
  type : s.type.isSome = r.type.isSome

/-- **An operation with other types** in the same places. -/
structure OperationDescriptor.Retyped (o q : OperationDescriptor) : Prop where
  others : q = { o with
    body := q.body
    pathParams := q.pathParams
    queryParams := q.queryParams
    headerParams := q.headerParams
    responses := q.responses }
  body : Option.Rel PropertyDescriptor.Retyped o.body q.body
  pathParams : List.Forall₂ ParameterDescriptor.Retyped o.pathParams q.pathParams
  queryParams : List.Forall₂ ParameterDescriptor.Retyped o.queryParams q.queryParams
  headerParams : List.Forall₂ ParameterDescriptor.Retyped o.headerParams q.headerParams
  responses : List.Forall₂ ResponseDescriptor.Retyped o.responses q.responses

/-- Induction on a property by the variants of its union. -/
@[elab_as_elim]
theorem PropertyDescriptor.variantInduction {motive : PropertyDescriptor → Prop}
    (step : ∀ p, (∀ u ∈ p.union, ∀ v ∈ u.variants, motive v) → motive p)
    (p : PropertyDescriptor) : motive p :=
  step p fun u hu v hv =>
    have : sizeOf v < sizeOf p := by
      obtain ⟨_, _, _, _, _, _, union, _⟩ := p
      obtain rfl : union = some u := hu
      obtain ⟨variants, _, _⟩ := u
      have hlt : sizeOf v < sizeOf variants := List.sizeOf_lt_of_mem hv
      simp only [PropertyDescriptor.mk.sizeOf_spec, Option.some.sizeOf_spec, UnionOf.mk.sizeOf_spec]
      omega
    variantInduction step v
termination_by sizeOf p

/-! ## Changed types -/

section Changed

variable (f : TypeDescriptor → TypeDescriptor)

lemma forall₂_map_self {α : Type} {R : α → α → Prop} {g : α → α} {as : List α}
    (h : ∀ a ∈ as, R a (g a)) : List.Forall₂ R as (as.map g) :=
  List.forall₂_map_right_iff.2 (List.forall₂_same.2 h)

lemma optionRel_map_self {α : Type} {R : α → α → Prop} {g : α → α} {o : Option α}
    (h : ∀ a ∈ o, R a (g a)) : Option.Rel R o (o.map g) := by
  cases o with
  | none => exact .none
  | some a => exact .some (h a rfl)

lemma UnionOf.retyped_mapTypes {u : UnionDescriptor}
    (h : ∀ v ∈ u.variants, v.Retyped (v.mapTypes f)) :
    UnionOf.Retyped u { u with variants := u.variants.map (·.mapTypes f) } :=
  .intro rfl (forall₂_map_self h)

/-- Changing the types in a property changes nothing else. -/
theorem PropertyDescriptor.retyped_mapTypes (p : PropertyDescriptor) :
    p.Retyped (p.mapTypes f) := by
  induction p using PropertyDescriptor.variantInduction with
  | step p ih =>
    rw [mapTypes_eq]
    exact .intro rfl Option.isSome_map
      (optionRel_map_self fun u hu => UnionOf.retyped_mapTypes f (ih u hu))

/-- Changing the types in a model changes nothing else. -/
theorem ModelDescriptor.retyped_mapTypes (m : ModelDescriptor) : m.Retyped (m.mapTypes f) where
  others := rfl
  type := Option.isSome_map
  properties := forall₂_map_self fun p _ => p.retyped_mapTypes f
  union := optionRel_map_self fun _ _ =>
    UnionOf.retyped_mapTypes f fun v _ => v.retyped_mapTypes f

/-- Changing the types in an operation changes nothing else. -/
theorem OperationDescriptor.retyped_mapTypes (o : OperationDescriptor) :
    o.Retyped (o.mapTypes f) where
  others := rfl
  body := optionRel_map_self fun p _ => p.retyped_mapTypes f
  pathParams := forall₂_map_self fun _ _ => rfl
  queryParams := forall₂_map_self fun _ _ => rfl
  headerParams := forall₂_map_self fun _ _ => rfl
  responses := forall₂_map_self fun _ _ => ⟨rfl, Option.isSome_map⟩

end Changed

/-! ## Told apart by what is read -/

/-- **What is read tells a value apart** from the others that `R` allows in its place, and it can be
told where the reading ends.  The latter is what makes it work for one part after the other. -/
def ToldApart {α : Type} (R : α → α → Prop) (read : α → List TypeDescriptor) (a : α) : Prop :=
  ∀ ⦃b b' : α⦄ ⦃rest rest' : List TypeDescriptor⦄, R a b → R a b' →
    read b ++ rest = read b' ++ rest' → b = b' ∧ rest = rest'

section ToldApart

variable {α : Type} {R : α → α → Prop} {read : α → List TypeDescriptor}

/-- What is read says which of the values it is. -/
lemma ToldApart.eq_iff {a b : α} {types : List TypeDescriptor} (h : ToldApart R read a)
    (hb : R a b) (htypes : read b = types) (c : α) : b = c ↔ R a c ∧ read c = types := by
  constructor
  · rintro rfl
    exact ⟨hb, htypes⟩
  · rintro ⟨hc, htypes'⟩
    have heq : read b ++ [] = read c ++ [] := by rw [htypes, htypes']
    exact (h hb hc heq).1

lemma toldApart_list {as : List α} (h : ∀ a ∈ as, ToldApart R read a) :
    ToldApart (List.Forall₂ R) (·.flatMap read) as := by
  induction as with
  | nil =>
    rintro _ _ rest rest' ⟨⟩ ⟨⟩ heq
    exact ⟨rfl, heq⟩
  | cons a as ih =>
    rintro _ _ rest rest' (_ | ⟨hb, hbs⟩) (_ | ⟨hb', hbs'⟩) heq
    simp only [List.flatMap_cons, List.append_assoc] at heq
    obtain ⟨rfl, htail⟩ := h a List.mem_cons_self hb hb' heq
    obtain ⟨rfl, hrest⟩ := ih (fun a ha => h a (List.mem_cons_of_mem _ ha)) hbs hbs' htail
    exact ⟨rfl, hrest⟩

lemma toldApart_option {o : Option α} (h : ∀ a ∈ o, ToldApart R read a) :
    ToldApart (Option.Rel R) (·.toList.flatMap read) o := by
  cases o with
  | none =>
    rintro _ _ rest rest' ⟨⟩ ⟨⟩ heq
    exact ⟨rfl, heq⟩
  | some a =>
    rintro _ _ rest rest' (hb | _) (hb' | _) heq
    simp only [Option.toList_some, List.flatMap_singleton] at heq
    obtain ⟨rfl, hrest⟩ := h a rfl hb hb' heq
    exact ⟨rfl, hrest⟩

/-- Of a type that may be missing it has to be known whether it does. -/
lemma toldApart_toList (o : Option TypeDescriptor) :
    ToldApart (fun o o' => o'.isSome = o.isSome) Option.toList o := by
  intro b b' rest rest' hb hb' heq
  cases b <;> cases b' <;> simp_all

end ToldApart

lemma UnionOf.toldApart {u : UnionDescriptor}
    (h : ∀ v ∈ u.variants, ToldApart PropertyDescriptor.Retyped PropertyDescriptor.types v) :
    ToldApart UnionOf.Retyped (fun u => u.variants.flatMap (·.types)) u := by
  rintro w w' rest rest' ⟨hothers, hvariants⟩ ⟨hothers', hvariants'⟩ heq
  obtain ⟨hvariants, hrest⟩ := toldApart_list h hvariants hvariants' heq
  refine ⟨?_, hrest⟩
  rw [hothers, hothers', hvariants]

/-- **Properties with the same rest are told apart by their types.** -/
theorem PropertyDescriptor.toldApart (p : PropertyDescriptor) : ToldApart Retyped types p := by
  induction p using PropertyDescriptor.variantInduction with
  | step p ih =>
    -- from what is read one part is taken after the other, and each leaves the same behind it
    rintro q q' rest rest' ⟨hothers, hitems, hunion⟩ ⟨hothers', hitems', hunion'⟩ heq
    simp only [types_eq, List.cons_append, List.append_assoc] at heq
    obtain ⟨htype, heq⟩ := List.cons.inj heq
    obtain ⟨hitems, heq⟩ := toldApart_toList p.items hitems hitems' heq
    obtain ⟨hunion, hrest⟩ :=
      toldApart_option (fun u hu => UnionOf.toldApart (ih u hu)) hunion hunion' heq
    refine ⟨?_, hrest⟩
    rw [hothers, hothers', htype, hitems, hunion]

/-- **Models with the same rest are told apart by their types.** -/
theorem ModelDescriptor.toldApart (m : ModelDescriptor) : ToldApart Retyped types m := by
  intro n n' rest rest' hn hn' heq
  simp only [types_eq, List.append_assoc] at heq
  obtain ⟨htype, heq⟩ := toldApart_toList m.type hn.type hn'.type heq
  obtain ⟨hproperties, heq⟩ :=
    toldApart_list (fun p _ => p.toldApart) hn.properties hn'.properties heq
  obtain ⟨hunion, hrest⟩ :=
    toldApart_option (fun _ _ => UnionOf.toldApart fun v _ => v.toldApart) hn.union hn'.union heq
  refine ⟨?_, hrest⟩
  rw [hn.others, hn'.others, htype, hproperties, hunion]

lemma ParameterDescriptor.toldApart (p : ParameterDescriptor) :
    ToldApart Retyped (fun p => [p.type]) p := by
  intro q q' rest rest' hq hq' heq
  obtain ⟨htype, hrest⟩ := List.cons.inj heq
  refine ⟨?_, hrest⟩
  rw [hq, hq', htype]

lemma ResponseDescriptor.toldApart (r : ResponseDescriptor) :
    ToldApart Retyped (·.type.toList) r := by
  rintro s s' rest rest' ⟨hothers, htype⟩ ⟨hothers', htype'⟩ heq
  obtain ⟨htype, hrest⟩ := toldApart_toList r.type htype htype' heq
  refine ⟨?_, hrest⟩
  rw [hothers, hothers', htype]

/-- **Operations with the same rest are told apart by their types.** -/
theorem OperationDescriptor.toldApart (o : OperationDescriptor) : ToldApart Retyped types o := by
  intro q q' rest rest' hq hq' heq
  simp only [types_eq, List.append_assoc] at heq
  obtain ⟨hbody, heq⟩ := toldApart_option (fun p _ => p.toldApart) hq.body hq'.body heq
  obtain ⟨hpath, heq⟩ := toldApart_list (fun p _ => p.toldApart) hq.pathParams hq'.pathParams heq
  obtain ⟨hquery, heq⟩ :=
    toldApart_list (fun p _ => p.toldApart) hq.queryParams hq'.queryParams heq
  obtain ⟨hheader, heq⟩ :=
    toldApart_list (fun p _ => p.toldApart) hq.headerParams hq'.headerParams heq
  obtain ⟨hresponses, hrest⟩ :=
    toldApart_list (fun r _ => r.toldApart) hq.responses hq'.responses heq
  refine ⟨?_, hrest⟩
  rw [hq.others, hq'.others, hbody, hpath, hquery, hheader, hresponses]

end ApiTypes
