import ApiTypes.Proofs.Unions

/-!
# Two ways to take a union that stands inside

A union that is a property is flattened, and the property has the type of its only variant, if there
is one.  Anywhere else inside a type, the types of the variants are found and compared at once.  The
two ways are different code, look at the variants at different locations, and warn of different
things.  They come to the same type, or fail for the same cause, unless a variant is an object with
declared properties, which only the first way counts as a map.

* `ResolveError.SameCause` — errors that differ by no more than where they arose.
* `Resolving.Agree` — steps that both fail for the same cause, or both give related values;
  `agree_pure`, `Agree.bind`, … — how that runs through a `do` block.
* `schemaType_agree` — where a node stands makes no difference for its type.
* `candidate_agree` — nor does it matter for a variant without declared properties which way it is
  taken.
* `inlineUnion_agree` — **both ways agree.**
-/

namespace ApiTypes

/-- **Errors with the same cause**, wherever they arose. -/
inductive ResolveError.SameCause : ResolveError → ResolveError → Prop where
  | unresolvedReference (name : String) :
      SameCause (.unresolvedReference name) (.unresolvedReference name)
  | invalidBound (which : BoundKind) (value : Int) (location location' : Option String) :
      SameCause (.invalidBound which value location) (.invalidBound which value location')

/-- Telling the place of an error changes no cause. -/
lemma ResolveError.sameCause_locate (place place' : String) (e : ResolveError) :
    (e.locate place).SameCause (e.locate place') := by
  rcases e with name | ⟨which, value, _ | location⟩
  · exact .unresolvedReference name
  · exact .invalidBound which value _ _
  · exact .invalidBound which value _ _

/-! ## Steps that agree -/

namespace Resolving

variable {α β γ δ : Type} {R : α → β → Prop} {S : γ → δ → Prop}

/-- **Steps that agree**: both fail, for the same cause, or both give values that are related,
whatever they warn of. -/
inductive Agree (R : α → β → Prop) (x : Resolving α) (y : Resolving β) : Prop where
  | fail {e e' : ResolveError} (hx : x = Except.error e) (hy : y = Except.error e')
      (h : e.SameCause e')
  | give {a : α} {b : β} (hx : Gives x a) (hy : Gives y b) (h : R a b)

lemma agree_pure {a : α} {b : β} (h : R a b) :
    Agree R (Pure.pure a : Resolving α) (Pure.pure b : Resolving β) :=
  .give (gives_pure.2 rfl) (gives_pure.2 rfl) h

/-- Warnings make no difference. -/
lemma agree_warn (w w' : Warning) : Agree Eq (warn w) (warn w') :=
  .give ⟨_, rfl⟩ ⟨_, rfl⟩ rfl

/-- Neither does the place that is told of an error. -/
lemma agree_located (place place' : String) (x : Except ResolveError α) :
    Agree Eq (located place x) (located place' x) := by
  cases x with
  | error e => exact .fail rfl rfl (e.sameCause_locate place place')
  | ok value => exact .give ⟨_, rfl⟩ ⟨_, rfl⟩ rfl

/-- Steps that agree, one after another. -/
lemma Agree.bind {x : Resolving α} {y : Resolving β} {f : α → Resolving γ} {g : β → Resolving δ}
    (h : Agree R x y) (hfg : ∀ a b, R a b → Agree S (f a) (g b)) :
    Agree S (x >>= f) (y >>= g) := by
  cases h with
  | fail hx hy h => exact .fail (bind_of_error hx) (bind_of_error hy) h
  | @give a b hx hy h =>
    obtain ⟨ws, hx'⟩ := hx
    obtain ⟨ws', hy'⟩ := hy
    cases hfg a b h with
    | fail hf hg h => exact .fail (bind_of_ok_error hx' hf) (bind_of_ok_error hy' hg) h
    | give hf hg h =>
      exact .give (gives_bind.2 ⟨a, ⟨ws, hx'⟩, hf⟩) (gives_bind.2 ⟨b, ⟨ws', hy'⟩, hg⟩) h

/-- The same with nothing left to do on the left. -/
lemma Agree.bind_right {S : α → δ → Prop} {x : Resolving α} {y : Resolving β}
    {g : β → Resolving δ} (h : Agree R x y)
    (hg : ∀ a b, R a b → Agree S (Pure.pure a) (g b)) : Agree S x (y >>= g) := by
  rw [← bind_pure x]
  exact h.bind hg

/-- Steps along one list agree when they do at each of its elements. -/
lemma agree_mapM {ε : Type} {f : ε → Resolving α} {g : ε → Resolving β} {xs : List ε}
    (h : ∀ x ∈ xs, Agree R (f x) (g x)) :
    Agree (List.Forall₂ R) (xs.mapM f) (xs.mapM g) := by
  induction xs with
  | nil => exact agree_pure .nil
  | cons x xs ih =>
    obtain ⟨hx, hxs⟩ := List.forall_mem_cons.1 h
    rw [List.mapM_cons, List.mapM_cons]
    exact hx.bind fun a b hab => (ih hxs).bind fun as bs hrest => agree_pure (.cons hab hrest)

end Resolving

open Resolving

namespace Scope

variable {scope : Scope}

/-! ## Types of nodes -/

/-- An object stands for any value, whether it warns or not. -/
lemma declaredObject_agree {condition : Bool} (w w' : Warning) :
    Agree Eq (if condition then warn w >>= fun _ => Pure.pure TypeDescriptor.dynamic
        else Pure.pure TypeDescriptor.dynamic)
      (if condition then warn w' >>= fun _ => Pure.pure TypeDescriptor.dynamic
        else Pure.pure TypeDescriptor.dynamic) := by
  split
  · exact (agree_warn w w').bind fun _ _ _ => agree_pure rfl
  · exact agree_pure rfl

mutual

/-- **Where a node stands makes no difference for its type.** -/
theorem schemaType_agree (scope : Scope) : ∀ (node : SchemaNode) (location location' : String),
    Agree Eq (scope.schemaType node location) (scope.schemaType node location')
  | ⟨shape, _⟩, location, location' => shapeType_agree scope shape location location'

theorem shapeType_agree (scope : Scope) :
    ∀ (shape : Shape SchemaNode) (location location' : String),
      Agree Eq (scope.shapeType shape location) (scope.shapeType shape location')
  | .scalar _, location, location' => agree_located location location' _
  | .array none, _, _ => (agree_warn _ _).bind fun _ _ _ => agree_pure rfl
  | .array (some items), _, _ =>
      (schemaType_agree scope items _ _).bind fun _ _ h => agree_pure (congrArg _ h)
  | .map (.any _), _, _ => agree_pure rfl
  | .map (.schema values), _, _ =>
      (schemaType_agree scope values _ _).bind fun _ _ h => agree_pure (congrArg _ h)
  | .object ⟨_, _, some (.schema values)⟩, _, _ =>
      (schemaType_agree scope values _ _).bind fun _ _ h => agree_pure (congrArg _ h)
  | .object ⟨_, _, some (.any true)⟩, _, _ => agree_pure rfl
  | .object ⟨properties, _, some (.any false)⟩, location, location' => by
      rw [shapeType_closedObject scope (Or.inr rfl), shapeType_closedObject scope (Or.inr rfl)]
      exact declaredObject_agree _ _
  | .object ⟨properties, _, none⟩, location, location' => by
      rw [shapeType_closedObject scope (Or.inl rfl), shapeType_closedObject scope (Or.inl rfl)]
      exact declaredObject_agree _ _
  | .union kind variants, location, location' =>
      (variantTypes_agree scope variants location location' 0).bind fun types _ h =>
        .give (gives_unionType.2 rfl) (gives_unionType.2 rfl) (congrArg soleOf h)
  | .reference _, location, location' => agree_located location location' _

theorem variantTypes_agree (scope : Scope) :
    ∀ (nodes : List SchemaNode) (location location' : String) (place : Nat),
      Agree Eq (scope.variantTypes nodes location place) (scope.variantTypes nodes location' place)
  | [], _, _, _ => agree_pure rfl
  | node :: nodes, location, location', place =>
      (schemaType_agree scope node _ _).bind fun _ _ htype =>
        (variantTypes_agree scope nodes location location' (place + 1)).bind fun _ _ htypes =>
          agree_pure (htype ▸ htypes ▸ rfl)

end

/-! ## Unions -/

/-- A variant that declares no properties has its own type. -/
lemma candidate_agree {node : SchemaNode} (hdeclares : ¬ node.DeclaresProperties)
    (location location' : String) :
    Agree (fun t p => t = p.type) (scope.schemaType node location)
      (scope.candidate node location') := by
  have hnone : node.firstProperty? = none := by
    rwa [← SchemaNode.isSome_firstProperty?_iff, Option.not_isSome_iff_eq_none] at hdeclares
  rw [candidate, hnone]
  exact (schemaType_agree scope node location location').bind_right fun _ _ h => agree_pure h

end Scope

/-- **Both ways to take a union agree** when none of its variants is an object with declared
properties.  They fail for the same cause, or give one type, which is what the types of the variants
come to. -/
theorem inlineUnion_agree {scope : Scope} {variants : List SchemaNode}
    (hdeclares : ∀ v ∈ variants, ¬ v.DeclaresProperties) (kind : UnionKind) (metadata : Metadata)
    (location name : String) :
    (∃ e e', scope.schemaType ⟨.union kind variants, metadata⟩ location = Except.error e ∧
      scope.flatten name variants = Except.error e' ∧ e.SameCause e') ∨
    ∃ types t u,
      List.Forall₂ (fun e t => Gives (scope.schemaType e.1 (variantLocation location e.2)) t)
        variants.zipIdx types ∧
      Gives (scope.schemaType ⟨.union kind variants, metadata⟩ location) t ∧
      Gives (scope.flatten name variants) u ∧ soleType u = t ∧ TypesTo types t := by
  have hvariants : Agree (List.Forall₂ fun t p => t = p.type)
      (scope.variantTypes variants location 0) (scope.candidates name variants 0) := by
    rw [Scope.variantTypes_eq_mapM, Scope.candidates_eq_mapM]
    exact agree_mapM fun e he =>
      Scope.candidate_agree (hdeclares e.1 (List.fst_mem_of_mem_zipIdx he)) _ _
  cases hvariants with
  | @fail e e' htypes hps h =>
    exact Or.inl ⟨e, e', bind_of_error htypes, bind_of_error hps, h⟩
  | @give types ps htypes hps h =>
    have heq : types = ps.map (·.type) := by
      rwa [← List.forall₂_eq_eq_eq, List.forall₂_map_right_iff]
    have hgiven := htypes
    rw [Scope.variantTypes_eq_mapM, gives_mapM] at hgiven
    refine Or.inr ⟨types, soleOf types, unionOf name ps, hgiven, ?_, ?_, ?_, typesTo_soleOf types⟩
    · exact gives_bind.2 ⟨types, htypes, Scope.gives_unionType.2 rfl⟩
    · exact gives_bind.2 ⟨ps, hps, gives_pure.2 rfl⟩
    · rw [soleType_unionOf, heq]

/-- Texts with a format and without one. -/
def emailTexts : List SchemaNode :=
  [⟨.scalar { kind := .string, format := some "email" }, []⟩, ⟨.scalar { kind := .string }, []⟩]

lemma exists_schemaType_emailTexts : ∃ t,
    Gives (Scope.schemaType ⟨.empty, {}⟩ ⟨.union .anyOf emailTexts, []⟩ "contact") t ∧
      (t.name, t.format) = ("String", some "email") :=
  exists_gives_of (by decide +kernel)

theorem emailTexts_inlineUnion_agree :
    (∀ v ∈ emailTexts, ¬ v.DeclaresProperties) ∧ ∃ types t u,
      List.Forall₂ (fun e t =>
          Gives (Scope.schemaType ⟨.empty, {}⟩ e.1 (variantLocation "contact" e.2)) t)
        emailTexts.zipIdx types ∧
      Gives (Scope.schemaType ⟨.empty, {}⟩ ⟨.union .anyOf emailTexts, []⟩ "contact") t ∧
      Gives (Scope.flatten ⟨.empty, {}⟩ "Contact" emailTexts) u ∧ soleType u = t ∧ TypesTo types t ∧
      (t.name, t.format) = ("String", some "email") := by
  have hdeclares : ∀ v ∈ emailTexts, ¬ v.DeclaresProperties := by decide
  refine ⟨hdeclares, ?_⟩
  obtain ⟨t, hgives, hview⟩ := exists_schemaType_emailTexts
  rcases inlineUnion_agree hdeclares .anyOf [] "contact" "Contact" with
    ⟨e, -, herror, -⟩ | ⟨types, t', u, htypes, ht, hu, hsole, hto⟩
  · obtain ⟨ws, hgives⟩ := hgives
    rw [herror] at hgives
    cases hgives
  · exact ⟨types, t', u, htypes, ht, hu, hsole, hto, ht.unique hgives ▸ hview⟩

end ApiTypes
