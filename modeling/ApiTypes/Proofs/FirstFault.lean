import ApiTypes.Proofs.IntegerTypes
import ApiTypes.Proofs.Nodes
import ApiTypes.Proofs.Registration
import ApiTypes.Proofs.Resolving

/-!
# Where finding a type fails

To find the type of a node is to walk down its tree: to the items of lists, to the values of maps, to
the extra properties of objects, and to all variants of unions.  Declared properties are not looked
at.  The walk ends at the first node that has no type, which is a reference that leads nowhere or an
integer whose bounds do not fit, and its error tells the place of that very node.  What is left open
by lists that say nothing about their items is warned of on the way, once for each such list.

* `SchemaNode.sites` — the nodes that the walk comes across, each with its location, a node before
  the nodes below it.
* `Site.Fault` — what is wrong with a node at its place; `Site.Faulty` — something is.
* `FirstFault` — the fault of the first of several nodes that has one.
* `Scope.Walks` — a step that goes along some nodes and fails with the first fault, or has none to
  fail with; `walks_pure`, `Walks.bind`, … — how steps are put together.
* `schemaType_walks` — finding a type is such a step, by one case for each shape of a node.
* `schemaType_firstFault` — **it fails with the first fault and with nothing else.**
-/

namespace ApiTypes

open Resolving

/-! ## Nodes at their places -/

/-- A node and its location. -/
structure Site where
  node : SchemaNode
  location : String

mutual

/-- **The nodes that finding the type of a node comes across**, a node before the nodes below it. -/
def SchemaNode.sites : SchemaNode → (location : String) → List Site
  | ⟨shape, metadata⟩, location => ⟨⟨shape, metadata⟩, location⟩ :: shape.sitesBelow location
termination_by structural node => node

/-- The nodes below a shape that it comes across. -/
def Shape.sitesBelow : Shape SchemaNode → (location : String) → List Site
  | .array (some items), location => items.sites (itemsLocation location)
  | .map (.schema values), location => values.sites (valuesLocation location)
  | .object ⟨_, _, some (.schema values)⟩, location => values.sites (valuesLocation location)
  | .union _ variants, location => sitesOfVariants variants location 0
  | _, _ => []
termination_by structural shape => shape

/-- The nodes of the variants of a union, from a place on. -/
def sitesOfVariants : List SchemaNode → (location : String) → (place : Nat) → List Site
  | [], _, _ => []
  | node :: nodes, location, place =>
    node.sites (variantLocation location place) ++ sitesOfVariants nodes location (place + 1)
termination_by structural nodes => nodes

end

/-- A list that says nothing about its items. -/
def SchemaNode.lacksItems (node : SchemaNode) : Bool :=
  match node.shape with
  | .array none => true
  | _ => false

/-- Whether a warning is about such a list. -/
def Warning.isMissingItems : Warning → Bool
  | .missingArrayItems _ => true
  | _ => false

/-- One warning for each list that says nothing about its items. -/
def missingItems (sites : List Site) : List Warning :=
  (sites.filter (·.node.lacksItems)).map fun site => .missingArrayItems site.location

/-! ## Faults -/

section

variable {registry : Registry} {site : Site} {sites more : List Site} {e e' : ResolveError}

namespace Site

/-- **What is wrong with a node at its place**: it is a reference to no registered model, or an
integer whose bounds do not fit, which is told with the location of the node itself. -/
inductive Fault (registry : Registry) (site : Site) : ResolveError → Prop where
  | reference {name : String} (hname : site.node.referenceName = some name)
      (hkey : name ∉ registry.keys) : Fault registry site (.unresolvedReference name)
  | integer {s : ScalarSchema} {which : BoundKind} {value : Int}
      (hs : site.node.integer? = some s) (hmisfit : s.Misfit (.invalidBound which value none)) :
      Fault registry site (.invalidBound which value (some site.location))

/-- A reference to no registered model, or an integer whose bounds do not fit. -/
def Faulty (registry : Registry) (site : Site) : Prop :=
  (∃ name, site.node.referenceName = some name ∧ name ∉ registry.keys) ∨
    ∃ s, site.node.integer? = some s ∧ ¬ s.BoundsFit

lemma not_faulty_of_none (hreference : site.node.referenceName = none)
    (hinteger : site.node.integer? = none) : ¬ site.Faulty registry := by
  rintro (⟨name, hname, -⟩ | ⟨s, hs, -⟩)
  · cases hreference.symm.trans hname
  · cases hinteger.symm.trans hs

lemma Fault.faulty (h : site.Fault registry e) : site.Faulty registry := by
  cases h with
  | reference hname hkey => exact Or.inl ⟨_, hname, hkey⟩
  | integer hs hmisfit => exact Or.inr ⟨_, hs, hmisfit.not_boundsFit⟩

/-- A reference is no integer. -/
lemma integer?_of_referenceName {node : SchemaNode} {name : String}
    (h : node.referenceName = some name) : node.integer? = none := by
  rw [SchemaNode.referenceName] at h
  split at h
  · rename_i hshape
    rw [SchemaNode.integer?, hshape]
  · cases h

lemma Fault.unique (h : site.Fault registry e) (h' : site.Fault registry e') : e = e' := by
  cases h with
  | reference hname hkey =>
    cases h' with
    | reference hname' hkey' => rw [Option.some.inj (hname.symm.trans hname')]
    | integer hs hmisfit => cases (integer?_of_referenceName hname).symm.trans hs
  | integer hs hmisfit =>
    cases h' with
    | reference hname hkey => cases (integer?_of_referenceName hname).symm.trans hs
    | integer hs' hmisfit' =>
      obtain rfl := Option.some.inj (hs.symm.trans hs')
      cases hmisfit.unique hmisfit'
      rfl

end Site

/-- **The first fault of several nodes**: that of a node with none before it. -/
def FirstFault (registry : Registry) (sites : List Site) (e : ResolveError) : Prop :=
  ∃ before site after, sites = before ++ site :: after ∧
    (∀ s ∈ before, ¬ s.Faulty registry) ∧ site.Fault registry e

namespace FirstFault

lemma of_fault (h : site.Fault registry e) : FirstFault registry [site] e :=
  ⟨[], site, [], rfl, List.forall_mem_nil _, h⟩

lemma exists_faulty (h : FirstFault registry sites e) : ∃ site ∈ sites, site.Faulty registry := by
  obtain ⟨before, site, after, rfl, -, hfault⟩ := h
  exact ⟨site, by simp, hfault.faulty⟩

/-- Nodes that come later make no difference. -/
lemma append (h : FirstFault registry sites e) (more : List Site) :
    FirstFault registry (sites ++ more) e := by
  obtain ⟨before, site, after, rfl, hbefore, hfault⟩ := h
  exact ⟨before, site, after ++ more, by simp, hbefore, hfault⟩

/-- Neither do nodes without a fault that come before. -/
lemma prepend (hsites : ∀ s ∈ sites, ¬ s.Faulty registry) (h : FirstFault registry more e) :
    FirstFault registry (sites ++ more) e := by
  obtain ⟨before, site, after, rfl, hbefore, hfault⟩ := h
  exact ⟨sites ++ before, site, after, by simp, List.forall_mem_append.2 ⟨hsites, hbefore⟩, hfault⟩

lemma cons_iff : FirstFault registry (site :: sites) e ↔
    site.Fault registry e ∨ ¬ site.Faulty registry ∧ FirstFault registry sites e := by
  constructor
  · rintro ⟨_ | ⟨first, before⟩, s, after, heq, hbefore, hfault⟩
    · obtain ⟨rfl, -⟩ := List.cons.inj heq
      exact Or.inl hfault
    · obtain ⟨rfl, rfl⟩ := List.cons.inj heq
      obtain ⟨hfirst, hbefore⟩ := List.forall_mem_cons.1 hbefore
      exact Or.inr ⟨hfirst, before, s, after, rfl, hbefore, hfault⟩
  · rintro (h | ⟨hsite, h⟩)
    · exact (of_fault h).append sites
    · exact h.prepend (List.forall_mem_singleton.2 hsite)

/-- There is one first fault at most. -/
lemma unique (h : FirstFault registry sites e) (h' : FirstFault registry sites e') : e = e' := by
  induction sites with
  | nil =>
    obtain ⟨site, hsite, -⟩ := h.exists_faulty
    cases hsite
  | cons site sites ih =>
    rcases cons_iff.1 h with h | ⟨hsite, h⟩ <;> rcases cons_iff.1 h' with h' | ⟨hsite', h'⟩
    · exact h.unique h'
    · exact absurd h.faulty hsite'
    · exact absurd h'.faulty hsite
    · exact ih h h'

end FirstFault

end

/-! ## Steps along nodes -/

namespace Scope

variable {α β : Type} {scope : Scope} {site : Site} {sites more : List Site} {location : String}

/-- **A step that goes along some nodes**: it fails with their first fault, or none of them has one
and it warns of the lists among them that say nothing about their items. -/
inductive Walks (scope : Scope) (sites : List Site) (x : Resolving α) : Prop where
  | fail {e : ResolveError} (h : FirstFault scope.registry sites e) (hx : x = Except.error e)
  | pass {a : α} {warnings : List Warning} (h : ∀ s ∈ sites, ¬ s.Faulty scope.registry)
      (hx : x = Except.ok (a, warnings))
      (hwarnings : warnings.filter Warning.isMissingItems = missingItems sites)

lemma walks_pure (a : α) : scope.Walks [] (Pure.pure a : Resolving α) :=
  .pass (List.forall_mem_nil _) rfl rfl

lemma walks_warn {w : Warning} (h : w.isMissingItems = false) : scope.Walks [] (warn w) :=
  .pass (List.forall_mem_nil _) rfl (by simp [h, missingItems])

/-- One step after another goes along the nodes of both. -/
lemma Walks.bind {x : Resolving α} {f : α → Resolving β} (hx : scope.Walks sites x)
    (hf : ∀ a, scope.Walks more (f a)) : scope.Walks (sites ++ more) (x >>= f) := by
  cases hx with
  | fail h hx => exact .fail (h.append more) (bind_of_error hx)
  | @pass a warnings h hx hwarnings =>
    cases hf a with
    | fail h' hfa => exact .fail (.prepend h h') (bind_of_ok_error hx hfa)
    | pass h' hfa hwarnings' =>
      refine .pass (List.forall_mem_append.2 ⟨h, h'⟩) (bind_of_ok hx hfa) ?_
      rw [List.filter_append, hwarnings, hwarnings', missingItems, missingItems, missingItems,
        List.filter_append, List.map_append]

/-- What is done with a value makes no difference. -/
lemma Walks.map {x : Resolving α} (hx : scope.Walks sites x) (f : α → β) :
    scope.Walks sites (x >>= fun a => Pure.pure (f a)) := by
  have h := hx.bind fun a => walks_pure (f a)
  rwa [List.append_nil] at h

/-- A node that has nothing to fail with or to warn of makes no difference. -/
lemma Walks.cons {x : Resolving α} (hsound : ¬ site.Faulty scope.registry)
    (hitems : site.node.lacksItems = false) (hx : scope.Walks sites x) :
    scope.Walks (site :: sites) x := by
  cases hx with
  | fail h hx => exact .fail (.prepend (List.forall_mem_singleton.2 hsound) h) hx
  | pass h hx hwarnings =>
    refine .pass (List.forall_mem_cons.2 ⟨hsound, h⟩) hx ?_
    rw [hwarnings, missingItems, missingItems, List.filter_cons_of_neg (by simp [hitems])]

/-! ## Nodes by their shapes -/

/-- A scalar has a type, unless it is an integer whose bounds do not fit. -/
lemma scalarType_cases (scope : Scope) (s : ScalarSchema) :
    ((s.kind = .integer → s.BoundsFit) ∧ ∃ t, scope.scalarType s = .ok t) ∨
      ∃ e, s.kind = .integer ∧ s.Misfit e ∧ scope.scalarType s = .error e := by
  rw [scalarType]
  cases hkind : s.kind with
  | integer =>
    rcases integerType_cases s scope.config.addressSizedIntegers with
      ⟨hfit, p, -, hok, -⟩ | ⟨e, hmisfit, herror⟩
    · exact Or.inl ⟨fun _ => hfit, _, by rw [hok]; rfl⟩
    · exact Or.inr ⟨e, rfl, hmisfit, by rw [herror]; rfl⟩
  | _ => exact Or.inl ⟨by rintro ⟨⟩, _, rfl⟩

lemma walks_scalar (schema : ScalarSchema) (metadata : Metadata) (location : String) :
    scope.Walks [⟨⟨.scalar schema, metadata⟩, location⟩]
      (located location (scope.scalarType schema)) := by
  rcases scope.scalarType_cases schema with ⟨hfit, t, hok⟩ | ⟨e, hkind, hmisfit, herror⟩
  · rw [hok]
    refine .pass (List.forall_mem_singleton.2 ?_) rfl rfl
    rintro (⟨name, ⟨⟩, -⟩ | ⟨s, hs, hmisfit⟩)
    obtain ⟨hkind, heq⟩ := Option.ite_none_right_eq_some.1 hs
    exact hmisfit (Option.some.inj heq ▸ hfit hkind)
  · obtain ⟨which, value, rfl⟩ := hmisfit.exists_eq
    rw [herror]
    exact .fail (.of_fault (.integer (if_pos hkind) hmisfit)) rfl

lemma walks_reference (name : String) (metadata : Metadata) (location : String) :
    scope.Walks [⟨⟨.reference name, metadata⟩, location⟩]
      (located location (scope.referenceType name)) := by
  rw [referenceType]
  cases hname : scope.registry.className? name with
  | none => exact .fail (.of_fault (.reference rfl (Registry.className?_eq_none.1 hname))) rfl
  | some className =>
    refine .pass (List.forall_mem_singleton.2 ?_) rfl rfl
    rintro (⟨name', hname', hkey⟩ | ⟨s, ⟨⟩, -⟩)
    cases hname'
    rw [Registry.className?_eq_none.2 hkey] at hname
    cases hname

/-- A list that says nothing about its items is warned of. -/
lemma walks_missingItems (metadata : Metadata) (location : String) :
    scope.Walks [⟨⟨.array none, metadata⟩, location⟩] (warn (.missingArrayItems location)) :=
  .pass (List.forall_mem_singleton.2 (Site.not_faulty_of_none rfl rfl)) rfl rfl

/-- An object stands for any value, whether it warns or not. -/
lemma walks_declaredObject {condition : Bool} {w : Warning} (h : w.isMissingItems = false) :
    scope.Walks [] (if condition then warn w >>= fun _ => Pure.pure TypeDescriptor.dynamic
      else Pure.pure TypeDescriptor.dynamic) := by
  split
  · exact (walks_warn h).map _
  · exact walks_pure _

/-- The types of the variants are compared once they are all found. -/
lemma walks_unionType (location : String) (kind : UnionKind) (types : List TypeDescriptor) :
    scope.Walks [] (unionType location kind types) := by
  rw [unionType]
  split
  · exact walks_pure _
  · exact walks_pure _
  · exact (walks_warn rfl).map _

mutual

/-- **Finding the type of a node goes along all nodes that it comes across.** -/
theorem schemaType_walks (scope : Scope) : ∀ (node : SchemaNode) (location : String),
    scope.Walks (node.sites location) (scope.schemaType node location)
  | ⟨shape, metadata⟩, location => shapeType_walks scope shape metadata location

theorem shapeType_walks (scope : Scope) :
    ∀ (shape : Shape SchemaNode) (metadata : Metadata) (location : String),
      scope.Walks (SchemaNode.sites ⟨shape, metadata⟩ location) (scope.shapeType shape location)
  | .scalar schema, metadata, location => walks_scalar schema metadata location
  | .array none, metadata, location => (walks_missingItems metadata location).map _
  | .array (some items), _, location =>
      ((schemaType_walks scope items _).map _).cons (Site.not_faulty_of_none rfl rfl) rfl
  | .map (.any _), _, _ => (walks_pure _).cons (Site.not_faulty_of_none rfl rfl) rfl
  | .map (.schema values), _, _ =>
      ((schemaType_walks scope values _).map _).cons (Site.not_faulty_of_none rfl rfl) rfl
  | .object ⟨_, _, some (.schema values)⟩, _, _ =>
      ((schemaType_walks scope values _).map _).cons (Site.not_faulty_of_none rfl rfl) rfl
  | .object ⟨_, _, some (.any true)⟩, _, _ =>
      (walks_pure _).cons (Site.not_faulty_of_none rfl rfl) rfl
  | .object ⟨_, _, some (.any false)⟩, _, _ => by
      refine Walks.cons (Site.not_faulty_of_none rfl rfl) rfl ?_
      rw [shapeType_closedObject scope (Or.inr rfl)]
      exact walks_declaredObject rfl
  | .object ⟨_, _, none⟩, _, _ => by
      refine Walks.cons (Site.not_faulty_of_none rfl rfl) rfl ?_
      rw [shapeType_closedObject scope (Or.inl rfl)]
      exact walks_declaredObject rfl
  | .union kind variants, _, location => by
      have h := (variantTypes_walks scope variants location 0).bind fun types =>
        walks_unionType location kind types
      rw [List.append_nil] at h
      exact h.cons (Site.not_faulty_of_none rfl rfl) rfl
  | .reference name, metadata, location => walks_reference name metadata location

theorem variantTypes_walks (scope : Scope) :
    ∀ (nodes : List SchemaNode) (location : String) (place : Nat),
      scope.Walks (sitesOfVariants nodes location place)
        (scope.variantTypes nodes location place)
  | [], _, _ => walks_pure []
  | node :: nodes, location, place =>
      (schemaType_walks scope node _).bind fun _ =>
        (variantTypes_walks scope nodes location (place + 1)).map _

end

/-! ## All of it -/

/-- Finding the type of a node when there are warnings already. -/
def schemaTypeAfter (scope : Scope) (earlier : List Warning) (node : SchemaNode)
    (location : String) : Resolving TypeDescriptor := do
  .warnAll earlier
  scope.schemaType node location

lemma schemaTypeAfter_cases (scope : Scope) (earlier : List Warning) (node : SchemaNode)
    (location : String) :
    (∃ e, FirstFault scope.registry (node.sites location) e ∧
        scope.schemaTypeAfter earlier node location = Except.error e) ∨
      (∀ site ∈ node.sites location, ¬ site.Faulty scope.registry) ∧ ∃ t added,
        added.filter Warning.isMissingItems = missingItems (node.sites location) ∧
        scope.schemaTypeAfter earlier node location = Except.ok (t, earlier ++ added) := by
  cases schemaType_walks scope node location with
  | fail h hx => exact Or.inl ⟨_, h, bind_of_ok_error rfl hx⟩
  | pass h hx hwarnings => exact Or.inr ⟨h, _, _, hwarnings, bind_of_ok rfl hx⟩

end Scope

/-- **Finding a type fails with the first fault and with nothing else.**  It fails just when some
node that it comes across is a reference to no registered model or an integer whose bounds do not
fit.  The error is that of the first such node, and tells the location of that node when it is an
integer.  Otherwise the warnings that were there stay, and of those that are added there is one for
each list that says nothing about its items, with the location of the list, in the order in which
they are met. -/
theorem schemaType_firstFault (scope : Scope) (earlier : List Warning) (node : SchemaNode)
    (location : String) :
    (∀ e, scope.schemaTypeAfter earlier node location = Except.error e ↔
        FirstFault scope.registry (node.sites location) e) ∧
      ((∃ e, scope.schemaTypeAfter earlier node location = Except.error e) ↔
        ∃ site ∈ node.sites location, site.Faulty scope.registry) ∧
      ∀ t warnings, scope.schemaTypeAfter earlier node location = Except.ok (t, warnings) →
        ∃ added, warnings = earlier ++ added ∧
          added.filter Warning.isMissingItems = missingItems (node.sites location) := by
  rcases scope.schemaTypeAfter_cases earlier node location with
    ⟨e, hfirst, herror⟩ | ⟨hsound, t, added, hadded, hok⟩
  · rw [herror]
    refine ⟨fun e' => ⟨?_, fun h => congrArg _ (hfirst.unique h)⟩,
      iff_of_true ⟨e, rfl⟩ hfirst.exists_faulty, ?_⟩
    · rintro ⟨⟩
      exact hfirst
    · rintro _ _ ⟨⟩
  · rw [hok]
    have hnone : ¬ ∃ site ∈ node.sites location, site.Faulty scope.registry := by simpa using hsound
    refine ⟨fun e => ⟨?_, fun h => absurd h.exists_faulty hnone⟩,
      iff_of_false ?_ hnone, ?_⟩
    · rintro ⟨⟩
    · rintro ⟨_, ⟨⟩⟩
    · rintro _ _ ⟨⟩
      exact ⟨added, rfl, hadded⟩

/-- A choice between lists of ages that are to be at least zero and below zero, and owners. -/
def SchemaNode.agesOrOwner : SchemaNode :=
  ⟨.union .oneOf [⟨.map (.schema ⟨.array (some ⟨.scalar
      { kind := .integer, minimum := some 0, maximum := some 0, exclusiveMaximum := true }, []⟩),
      []⟩), []⟩, ⟨.reference "owner", []⟩], []⟩

/-- A choice between lists and maps of lists, none of which says anything about its items. -/
def SchemaNode.openLists : SchemaNode :=
  ⟨.union .anyOf [⟨.array none, []⟩, ⟨.map (.schema ⟨.array none, []⟩), []⟩], []⟩

/-- Of two faults the first is told, at its own place; and the warnings of lists come after those that
were there. -/
theorem agesOrOwner_schemaType_firstFault :
    (Scope.schemaTypeAfter ⟨.empty, {}⟩ [] .agesOrOwner "pet" =
        Except.error (.invalidBound .maximum (-1) (some "pet<0>\x7b\x7d[]")) ∧
      FirstFault .empty (SchemaNode.agesOrOwner.sites "pet")
        (.invalidBound .maximum (-1) (some "pet<0>\x7b\x7d[]")) ∧
      ∃ site ∈ SchemaNode.agesOrOwner.sites "pet", site.Faulty .empty) ∧
    ∃ t warnings added,
      Scope.schemaTypeAfter ⟨.empty, {}⟩ [.missingArrayItems "tags"] .openLists "pets" =
          Except.ok (t, warnings) ∧
        warnings = .missingArrayItems "tags" :: added ∧
        added.filter Warning.isMissingItems = missingItems (SchemaNode.openLists.sites "pets") ∧
        missingItems (SchemaNode.openLists.sites "pets") =
          [.missingArrayItems "pets<0>", .missingArrayItems "pets<1>\x7b\x7d"] := by
  have herror : Scope.schemaTypeAfter ⟨.empty, {}⟩ [] .agesOrOwner "pet" =
      Except.error (.invalidBound .maximum (-1) (some "pet<0>\x7b\x7d[]")) := rfl
  obtain ⟨hfirst, hfaulty, -⟩ := schemaType_firstFault ⟨.empty, {}⟩ [] .agesOrOwner "pet"
  obtain ⟨t, ⟨warnings, hok⟩, -⟩ : ∃ t,
      Gives (Scope.schemaTypeAfter ⟨.empty, {}⟩ [.missingArrayItems "tags"] .openLists "pets") t ∧
        t.name = "Value" := exists_gives_of (by decide +kernel)
  obtain ⟨-, -, hpass⟩ :=
    schemaType_firstFault ⟨.empty, {}⟩ [.missingArrayItems "tags"] .openLists "pets"
  obtain ⟨added, hwarnings, hadded⟩ := hpass t warnings hok
  exact ⟨⟨herror, (hfirst _).1 herror, hfaulty.1 ⟨_, herror⟩⟩, t, warnings, added, hok, hwarnings,
    hadded, rfl⟩

end ApiTypes
