import ApiTypes.Proofs.DroppedModels
import ApiTypes.Proofs.NestedNames
import ApiTypes.Text.Latin
import Mathlib.Data.List.Find

/-!
# Names inside map-like models

The properties of a map-like object are resolved apart from its model, and the names inside them
begin with its key in camel case.  The model has a class name of its own, which is something else
when that name is reserved, starts with a digit or is taken.  When the class name changes, the names
that begin with the old one are moved, and these need not be among them.

So a name inside such a model is told by the class names that the model has held: the first of them
that it begins with is where it is moved from.  If that is the key in camel case the name follows
the class name from then on, and otherwise it never gets there.

* `PropertyDescriptor.MovedBy` — what changes of class names do to the names inside a property.
* `rebaseAlong`, `rebaseAlong_eq_iff` — a name moved along several class names, and when it ends up
  where it should.
* `ResolvedDocument.heldNames`, `Run.propertiesMovedBy` — the class names that a model holds, and
  its properties after them.
* `mapLike_nestedUnder_iff` — **when the names inside a map-like model follow its class name.**
  `not_nestedUnder_typeOptions` — a document where they do not.
-/

namespace ApiTypes

open Resolving

/-! ## Names moved along class names -/

/-- Whether a name begins with another. -/
def begins (name beginning : String) : Bool :=
  beginning.toList.isPrefixOf name.toList

lemma begins_iff {name beginning : String} :
    begins name beginning = true ↔ ∃ rest, name = beginning ++ rest := by
  rw [begins, List.isPrefixOf_iff_prefix]
  constructor
  · rintro ⟨rest, hrest⟩
    refine ⟨String.ofList rest, ?_⟩
    rw [← String.toList_inj, String.toList_append, String.toList_ofList, hrest]
  · rintro ⟨rest, rfl⟩
    rw [String.toList_append]
    exact List.prefix_append _ _

/-- A legal name has no underscore, so it does not reach into the numbering of variants. -/
lemma begins_numbered {name beginning : String} (hlegal : Name.Legal beginning) (i : Nat) :
    begins (name ++ "_sub_" ++ i.repr) beginning = begins name beginning := by
  rw [Bool.eq_iff_iff, begins, begins, List.isPrefixOf_iff_prefix, List.isPrefixOf_iff_prefix,
    String.toList_append, String.toList_append, List.append_assoc]
  refine ⟨fun h => ?_, fun h => h.trans (List.prefix_append _ _)⟩
  rcases List.prefix_or_prefix_of_prefix h (List.prefix_append _ _) with hshort | ⟨rest, hlong⟩
  · exact hshort
  rw [← hlong, List.prefix_append_right_inj] at h
  cases rest with
  | nil => exact List.append_nil name.toList ▸ hlong ▸ List.prefix_rfl
  | cons d rest =>
    obtain rfl : d = '_' := (List.cons_prefix_cons.1 h).1
    have halphanum := hlegal.isAlphanum '_' (hlong ▸ List.mem_append_right _ List.mem_cons_self)
    exact absurd halphanum (by decide)

lemma rebase_of_not_begins {previous name : String} (h : begins name previous = false)
    (current : String) : rebase previous current name = name := by
  rw [rebase]
  split
  · rename_i rest hrest
    have hbegins : begins name previous = true := by
      rw [begins, List.isPrefixOf_iff_prefix, Text.afterStart_eq_some_iff.1 hrest]
      exact List.prefix_append _ _
    rw [hbegins] at h
    cases h
  · rfl

lemma rebase_self (current name : String) : rebase current current name = name := by
  cases h : begins name current with
  | false => exact rebase_of_not_begins h current
  | true =>
    obtain ⟨rest, rfl⟩ := begins_iff.1 h
    exact rebase_append current current rest

/-- A name moved along the class names that a model holds one after another. -/
def rebaseAlong : List String → String → String
  | previous :: current :: later, name =>
    rebaseAlong (current :: later) (rebase previous current name)
  | _, name => name

variable {first : String} {later : List String}

/-- A name that begins with the first class name follows to the last. -/
lemma rebaseAlong_append (first : String) (later : List String) (rest : String) :
    rebaseAlong (first :: later) (first ++ rest) = later.getLastD first ++ rest := by
  induction later generalizing first with
  | nil => rfl
  | cons current later ih => rw [rebaseAlong, rebase_append, ih, List.getLastD_cons]

/-- **When a name ends up at the last class name**: the first class name that it begins with is all
of its beginning. -/
lemma rebaseAlong_eq_iff (first : String) (later : List String) (start rest : String) :
    rebaseAlong (first :: later) (start ++ rest) = later.getLastD first ++ rest ↔
      (first :: later).find? (begins (start ++ rest)) = some start := by
  induction later generalizing first with
  | nil =>
    cases hbegins : begins (start ++ rest) first with
    | true =>
      rw [List.find?_cons_of_pos hbegins, Option.some.injEq, eq_comm (a := first)]
      exact String.append_left_inj rest
    | false =>
      rw [List.find?_cons_of_neg (by simp [hbegins])]
      refine iff_of_false (fun heq => ?_) (by simp)
      have htrue : begins (start ++ rest) first = true := begins_iff.2 ⟨rest, heq⟩
      rw [hbegins] at htrue
      cases htrue
  | cons current later ih =>
    cases hbegins : begins (start ++ rest) first with
    | true =>
      obtain ⟨rest', heq⟩ := begins_iff.1 hbegins
      rw [List.find?_cons_of_pos hbegins, Option.some.injEq, heq, rebaseAlong_append,
        String.append_right_inj]
      constructor
      · rintro rfl
        exact (String.append_left_inj rest').1 heq.symm
      · rintro rfl
        exact ((String.append_right_inj first).1 heq).symm
    | false =>
      rw [List.find?_cons_of_neg (by simp [hbegins]), rebaseAlong,
        rebase_of_not_begins hbegins current, List.getLastD_cons, ih]

/-- The names of variants end up where the name of their property does. -/
lemma rebaseAlong_numbered_iff (hlegal : ∀ c ∈ first :: later, Name.Legal c)
    (start rest : String) (i : Nat) :
    rebaseAlong (first :: later) (start ++ rest ++ "_sub_" ++ i.repr) =
        later.getLastD first ++ rest ++ "_sub_" ++ i.repr ↔
      (first :: later).find? (begins (start ++ rest)) = some start := by
  have hfind : (first :: later).find? (begins (start ++ rest ++ "_sub_" ++ i.repr)) =
      (first :: later).find? (begins (start ++ rest)) :=
    List.find?_congr fun c hc => begins_numbered (hlegal c hc) i
  rw [← hfind]
  simp only [String.append_assoc]
  exact rebaseAlong_eq_iff first later start _

/-! ## Names inside properties -/

namespace PropertyDescriptor

variable {f g : String → String} {p p' p'' : PropertyDescriptor} {owner : String}

/-- The names inside a property: that of its enum, and those of its variants. -/
def nestedNames (p : PropertyDescriptor) : List String :=
  p.enumValues.toList.map (·.name) ++ p.union.toList.flatMap fun u => u.variants.map (·.name)

/-- The names inside a property do begin with that of its owner. -/
lemma NestedUnder.begins [Spelling] (h : p.NestedUnder owner) :
    ∀ name ∈ p.nestedNames, begins name owner = true := by
  intro name hname
  rcases List.mem_append.1 hname with hname | hname
  · obtain ⟨e, he, rfl⟩ := List.mem_map.1 hname
    exact begins_iff.2 ⟨_, h.enum e (Option.mem_toList.1 he)⟩
  · obtain ⟨u, hu, hname⟩ := List.mem_flatMap.1 hname
    obtain ⟨v, hv, rfl⟩ := List.mem_map.1 hname
    obtain ⟨i, hi⟩ := List.mem_iff_getElem?.1 hv
    rw [(h.union u (Option.mem_toList.1 hu) i v hi).1, String.append_assoc, String.append_assoc]
    exact begins_iff.2 ⟨_, rfl⟩

/-- Where there are no names they are as they should be. -/
lemma nestedUnder_of_nestedNames_eq_nil [Spelling] (h : p.nestedNames = []) (owner : String) :
    p.NestedUnder owner := by
  obtain ⟨henum, hunion⟩ := List.append_eq_nil_iff.1 h
  refine ⟨fun e he => ?_, fun u hu i v hv => ?_⟩
  · have hmem : e.name ∈ p.enumValues.toList.map (·.name) :=
      List.mem_map_of_mem (Option.mem_toList.2 he)
    rw [henum] at hmem
    cases hmem
  · have hmem : v.name ∈ p.union.toList.flatMap fun u => u.variants.map (·.name) :=
      List.mem_flatMap.2 ⟨u, Option.mem_toList.2 hu, List.mem_map_of_mem (List.mem_of_getElem? hv)⟩
    rw [hunion] at hmem
    cases hmem

/-- The property `p'` is `p` with the names inside it changed by a function. -/
structure MovedBy (f : String → String) (p p' : PropertyDescriptor) : Prop where
  baseName_eq : p'.baseName = p.baseName
  enum : ∀ e' ∈ p'.enumValues, ∃ e ∈ p.enumValues, e'.name = f e.name
  variant : ∀ u' ∈ p'.union, ∀ (i : Nat) (v' : PropertyDescriptor), u'.variants[i]? = some v' →
    ∃ u ∈ p.union, ∃ v, u.variants[i]? = some v ∧ v'.name = f v.name ∧ v'.baseName = f v.baseName

lemma MovedBy.trans (h : p.MovedBy f p') (h' : p'.MovedBy g p'') : p.MovedBy (g ∘ f) p'' where
  baseName_eq := h'.baseName_eq.trans h.baseName_eq
  enum e'' he'' := by
    obtain ⟨e', he', hname'⟩ := h'.enum e'' he''
    obtain ⟨e, he, hname⟩ := h.enum e' he'
    exact ⟨e, he, by rw [hname', hname, Function.comp_apply]⟩
  variant u'' hu'' i v'' hv'' := by
    obtain ⟨u', hu', v', hv', hname', hbaseName'⟩ := h'.variant u'' hu'' i v'' hv''
    obtain ⟨u, hu, v, hv, hname, hbaseName⟩ := h.variant u' hu' i v' hv'
    exact ⟨u, hu, v, hv, by rw [hname', hname, Function.comp_apply],
      by rw [hbaseName', hbaseName, Function.comp_apply]⟩

lemma movedBy_refl (p : PropertyDescriptor) : p.MovedBy id p :=
  ⟨rfl, fun e he => ⟨e, he, rfl⟩, fun u hu _ v hv => ⟨u, hu, v, hv, rfl, rfl⟩⟩

lemma movedBy_rebase (previous current : String) (p : PropertyDescriptor) :
    p.MovedBy (ApiTypes.rebase previous current) (p.rebase previous current) where
  baseName_eq := rfl
  enum e' he' := by
    obtain ⟨e, he, rfl⟩ := Option.map_eq_some_iff.1 he'
    exact ⟨e, he, rfl⟩
  variant u' hu' i v' hv' := by
    obtain ⟨u, hu, rfl⟩ := Option.map_eq_some_iff.1 hu'
    rw [UnionOf.rebase, List.getElem?_map] at hv'
    obtain ⟨v, hv, rfl⟩ := Option.map_eq_some_iff.1 hv'
    exact ⟨u, hu, v, hv, rfl, rfl⟩

lemma movedBy_mapTypes (f : TypeDescriptor → TypeDescriptor) (p : PropertyDescriptor) :
    p.MovedBy id (p.mapTypes f) := by
  rw [mapTypes_eq]
  refine ⟨rfl, fun e he => ⟨e, he, rfl⟩, fun u' hu' i v' hv' => ?_⟩
  obtain ⟨u, hu, rfl⟩ := Option.map_eq_some_iff.1 hu'
  rw [List.getElem?_map] at hv'
  obtain ⟨v, hv, rfl⟩ := Option.map_eq_some_iff.1 hv'
  refine ⟨u, hu, v, hv, ?_⟩
  rw [mapTypes_eq]
  exact ⟨rfl, rfl⟩

lemma movedBy_withFacts (p : PropertyDescriptor) : p.MovedBy id p.withFacts :=
  ⟨rfl, (movedBy_refl p).enum, (movedBy_refl p).variant⟩

/-- **When the names inside a property follow**: there are none, or the first class name that they
begin with is what they were called after. -/
lemma MovedBy.nestedUnder_iff [Spelling] (hmoved : p.MovedBy (rebaseAlong (first :: later)) p')
    (hp : p.NestedUnder owner) (hlegal : ∀ c ∈ first :: later, Name.Legal c) :
    p'.NestedUnder (later.getLastD first) ↔ p'.nestedNames = [] ∨
      (first :: later).find? (begins (owner ++ Name.camelize p'.baseName)) = some owner := by
  rw [hmoved.baseName_eq]
  have henum := rebaseAlong_eq_iff first later owner (Name.camelize p.baseName)
  have hvariant := rebaseAlong_numbered_iff hlegal owner (Name.camelize p.baseName)
  constructor
  · intro h
    by_cases hnone : p'.nestedNames = []
    · exact Or.inl hnone
    refine Or.inr ?_
    obtain ⟨name, hname⟩ := List.exists_mem_of_ne_nil _ hnone
    rcases List.mem_append.1 hname with hname | hname
    · obtain ⟨e', he', -⟩ := List.mem_map.1 hname
      rw [Option.mem_toList] at he'
      obtain ⟨e, he, heq⟩ := hmoved.enum e' he'
      rw [← henum, ← hp.enum e he, ← heq, h.enum e' he', hmoved.baseName_eq]
    · obtain ⟨u', hu', hname⟩ := List.mem_flatMap.1 hname
      obtain ⟨v', hv', -⟩ := List.mem_map.1 hname
      rw [Option.mem_toList] at hu'
      obtain ⟨i, hi⟩ := List.mem_iff_getElem?.1 hv'
      obtain ⟨u, hu, v, hv, heq, -⟩ := hmoved.variant u' hu' i v' hi
      rw [← hvariant i, ← (hp.union u hu i v hv).1, ← heq, (h.union u' hu' i v' hi).1,
        hmoved.baseName_eq]
  · rintro (hnone | hfind)
    · exact nestedUnder_of_nestedNames_eq_nil hnone _
    refine ⟨fun e' he' => ?_, fun u' hu' i v' hv' => ?_⟩
    · obtain ⟨e, he, heq⟩ := hmoved.enum e' he'
      rw [heq, hp.enum e he, henum.2 hfind, hmoved.baseName_eq]
    · obtain ⟨u, hu, v, hv, hname, hbaseName⟩ := hmoved.variant u' hu' i v' hv'
      obtain ⟨hname', hbaseName'⟩ := hp.union u hu i v hv
      rw [hname, hbaseName, hname', hbaseName', (hvariant i).2 hfind, hmoved.baseName_eq]
      exact ⟨rfl, rfl⟩

end PropertyDescriptor

/-! ## Names when a map-like object is met -/

namespace Scope

variable [Spelling] {scope : Scope} {memo memo' : MapLikeMemo}

lemma plainProperties_nestedUnder {owner : Owner} {schema : ObjectSchema}
    {ps : List PropertyDescriptor} (h : Gives (scope.plainProperties owner schema) ps) :
    ∀ p ∈ ps, p.NestedUnder owner.typePrefix := by
  intro p hp
  obtain ⟨e, -, facts, hfacts, rfl⟩ := exists_described h p hp
  exact describe_nestedUnder hfacts _

/-- No model counts as map-like until it gets the properties of a map-like object. -/
lemma Modelled.mapLike_not_mem_flags {key : String} {spec : ModelSpec} {m : ModelDescriptor}
    (h : Modelled scope key spec memo m memo') : ModelFlag.mapLike ∉ m.flags := by
  cases h <;> simp

end Scope

/-! ## Class names that a model holds -/

namespace ModelDescriptor

variable {f g : String → String} {m m' m'' : ModelDescriptor}

/-- The properties of `m'` are those of `m` with the names inside them changed by a function. -/
def PropertiesMovedBy (f : String → String) (m m' : ModelDescriptor) : Prop :=
  ∀ p' ∈ m'.properties, ∃ p ∈ m.properties, p.MovedBy f p'

lemma PropertiesMovedBy.trans (h : m.PropertiesMovedBy f m') (h' : m'.PropertiesMovedBy g m'') :
    m.PropertiesMovedBy (g ∘ f) m'' := by
  intro p'' hp''
  obtain ⟨p', hp', hmoved'⟩ := h' p'' hp''
  obtain ⟨p, hp, hmoved⟩ := h p' hp'
  exact ⟨p, hp, hmoved.trans hmoved'⟩

lemma propertiesMovedBy_self (m : ModelDescriptor) :
    m.PropertiesMovedBy (ApiTypes.rebase m.className m.className) m := by
  have hid : ApiTypes.rebase m.className m.className = id := funext (rebase_self m.className)
  rw [hid]
  exact fun p hp => ⟨p, hp, p.movedBy_refl⟩

lemma propertiesMovedBy_called (m : ModelDescriptor) (className : String) :
    m.PropertiesMovedBy (ApiTypes.rebase m.className className) (m.called className) := by
  by_cases hsame : className = m.className
  · rw [hsame, called_self]
    exact m.propertiesMovedBy_self
  · rw [called_of_ne hsame]
    intro p' hp'
    obtain ⟨p, hp, rfl⟩ := List.mem_map.1 hp'
    exact ⟨p, hp, p.movedBy_rebase _ _⟩

lemma propertiesMovedBy_finished (classNames : String → Option String) (m : ModelDescriptor) :
    m.PropertiesMovedBy id (m.finished classNames) := by
  intro p'' hp''
  obtain ⟨p', hp', rfl⟩ := List.mem_map.1 hp''
  obtain ⟨p, hp, rfl⟩ := List.mem_map.1 hp'
  exact ⟨p, hp, (p.movedBy_mapTypes _).trans (PropertyDescriptor.movedBy_withFacts _)⟩

end ModelDescriptor

namespace Settlement

variable {s : Settlement} {key : String} {m m' : ModelDescriptor}

/-- A ruling moves the names inside the model by its class names before and after. -/
lemma propertiesMovedBy_carryOut [Spelling] (hs : s.registry.Consistent)
    (hm : s.registry.get? key = some m) (ruling : Ruling)
    (hm' : (s.carryOut key ruling).registry.get? key = some m') :
    m.PropertiesMovedBy (rebase m.className m'.className) m' := by
  cases ruling with
  | keep =>
    obtain rfl := Option.some.inj (hm.symm.trans hm')
    exact m.propertiesMovedBy_self
  | rename desired =>
    obtain rfl := Option.some.inj ((get?_rename hs hm desired).symm.trans hm')
    rw [ModelDescriptor.className_called]
    exact m.propertiesMovedBy_called _
  | renameBody desired =>
    obtain rfl := Option.some.inj ((get?_markBody (get?_rename hs hm desired)).symm.trans hm')
    rw [ModelDescriptor.className_asBody, ModelDescriptor.className_called]
    exact m.propertiesMovedBy_called _
  | drop =>
    rw [(get?_carryOut_eq_none_iff hs hm).2 rfl] at hm'
    cases hm'

end Settlement

/-- **The class names that a model holds** one after another: the registered one, the one after
suggested names were taken, and the one that it ends up with. -/
def ResolvedDocument.heldNames [Spelling] (parts : ResolvedDocument) (document : ApiDocument)
    (config : Config) (key : String) : List String :=
  [parts.registry, (parts.named document config).registry,
    (parts.settled document config).registry].filterMap (·.className? key)

namespace ApiDocument.Run

variable {document : ApiDocument} {config : Config} {parts : ResolvedDocument} {api : TypedApi}
  {statistics : Statistics} {key : String} {m left : ModelDescriptor}

/-- **The names inside the properties of a model** are moved along the class names that it holds. -/
lemma propertiesMovedBy [AsciiSpelling] (run : document.Run config parts api statistics)
    (hm : parts.registry.get? key = some m)
    (hleft : (parts.settled document config).registry.get? key = some left) :
    ∃ between, parts.heldNames document config key = [m.className, between, left.className] ∧
      (∀ c ∈ [m.className, between, left.className], Name.Legal c) ∧
      m.PropertiesMovedBy (rebaseAlong [m.className, between, left.className]) left := by
  have hlegal := run.named_moves.legalNames run.parts_legalNames
  have hmarkers := Settlement.dropMarkers_moves run.needed_consistent
  obtain ⟨between, hneeded⟩ := hmarkers.exists_get? hleft
  have hnamed := Settlement.get?_dropUnreferenced run.named_consistent hneeded
  obtain ⟨hturns, hturn, heq⟩ := Settlement.get?_applySuggestions
    (s := ⟨parts.registry, 0, 0, []⟩) run.parts_consistent
    (Scope.suggestions ⟨parts.registry, config⟩ document.operations) hm
  have hfirst := Settlement.propertiesMovedBy_carryOut (hturns.consistent run.parts_consistent)
    hturn _ (heq ▸ hnamed)
  have hlast : between.PropertiesMovedBy (rebase between.className left.className) left := by
    have hleft' := Settlement.get?_dropMarkers run.needed_consistent
      (run.needed_moves.legalNames hlegal) hneeded
    obtain rfl := Option.some.inj (hleft.symm.trans hleft')
    split
    · rw [ModelDescriptor.className_called]
      exact between.propertiesMovedBy_called _
    · exact between.propertiesMovedBy_self
  refine ⟨between.className, ?_, ?_, hfirst.trans hlast⟩
  · simp [ResolvedDocument.heldNames, Settlement.className?_of_get?, hm, hnamed, hleft]
  · simp only [List.forall_mem_cons, List.not_mem_nil, false_implies, implies_true, and_true]
    exact ⟨run.parts_legalNames _ (Members.mem_of_get? hm), hlegal _ (Members.mem_of_get? hnamed),
      run.settled_legalNames _ (Members.mem_of_get? hleft)⟩

/-! ## Map-like models -/

/-- A map-like model counts as one. -/
lemma mapLike_mem_flags [Spelling] (run : document.Run config parts api statistics)
    {spec : ModelSpec} (hspec : (key, spec) ∈ document.models)
    (hm : parts.registry.get? key = some m) (hmapLike : spec.MapLike) :
    ModelFlag.mapLike ∈ m.flags := by
  obtain ⟨made, -, -, -, ⟨-, hplain, -⟩ | ⟨-, -, -, -, rfl⟩⟩ := run.parts_cases hspec hm
  · exact absurd hmapLike hplain
  · exact ModelFlags.mem_set.2 (Or.inl rfl)

/-- The names inside a model that counts as map-like begin with its key in camel case. -/
lemma nestedUnder_camelize [AsciiSpelling] (run : document.Run config parts api statistics)
    {spec : ModelSpec} (hspec : (key, spec) ∈ document.models)
    (hm : parts.registry.get? key = some m) (hflag : ModelFlag.mapLike ∈ m.flags) :
    ∀ p ∈ m.properties, p.NestedUnder (Name.camelize key) := by
  obtain ⟨made, _, _, hmade, ⟨-, -, rfl⟩ | ⟨schema, ps, -, hps, rfl⟩⟩ :=
    run.parts_cases hspec hm
  · exact absurd hflag hmade.mapLike_not_mem_flags
  · exact Scope.plainProperties_nestedUnder hps

end ApiDocument.Run

/-- **When the names inside a map-like model follow its class name.**  In every result, the names
inside a property of such a model begin with the model's class name just when the first class name
that the model has held, and that they begin with, is its key in camel case.  So they do whenever
the model was registered under that name. -/
theorem mapLike_nestedUnder_iff [AsciiSpelling] {document : ApiDocument} {config : Config}
    {api : TypedApi} {statistics : Statistics}
    (h : document.resolve config = .ok (api, statistics)) :
    ∃ parts, Gives (document.resolveParts config) parts ∧ ∀ e ∈ api.models, ∃ spec,
      (e.2.key, spec) ∈ document.models ∧
      (spec.MapLike → ModelFlag.mapLike ∈ e.2.flags) ∧
      (ModelFlag.mapLike ∈ e.2.flags →
        (∀ p ∈ e.2.properties, p.NestedUnder e.1 ↔ p.nestedNames = [] ∨
          (parts.heldNames document config e.2.key).find?
            (begins (Name.camelize e.2.key ++ Name.camelize p.baseName)) =
              some (Name.camelize e.2.key)) ∧
        (document.registeredName? e.2.key = some (Name.camelize e.2.key) →
          ∀ p ∈ e.2.properties, p.NestedUnder e.1)) := by
  obtain ⟨parts, run⟩ := ApiDocument.exists_run h
  refine ⟨parts, run.parts_given, fun e he => ?_⟩
  obtain ⟨left, m, spec, hleft, hname, heq, hm, hspec, -, hstable⟩ := run.exists_source he
  have hcontent := congrArg Prod.fst (hstable _ ModelDescriptor.stable_content)
  have hflags : ModelFlag.mapLike ∈ e.2.flags ↔ ModelFlag.mapLike ∈ m.flags := by
    rw [heq, ModelDescriptor.flags_finished]
    exact decide_eq_decide.1 hcontent
  refine ⟨spec, hspec, fun hmapLike => ?_, fun hflag => ?_⟩
  · exact hflags.2 (run.mapLike_mem_flags hspec hm hmapLike)
  have hunder := run.nestedUnder_camelize hspec hm (hflags.1 hflag)
  obtain ⟨between, hheld, hlegal, hmoved⟩ := run.propertiesMovedBy hm hleft
  have hfollows : ∀ p ∈ e.2.properties, p.NestedUnder e.1 ↔ p.nestedNames = [] ∨
      (parts.heldNames document config e.2.key).find?
        (begins (Name.camelize e.2.key ++ Name.camelize p.baseName)) =
          some (Name.camelize e.2.key) := by
    intro p hp
    rw [heq] at hp
    obtain ⟨p₀, hp₀, hp₀p⟩ :=
      (hmoved.trans (left.propertiesMovedBy_finished
        (parts.settled document config).registry.className?)) p hp
    rw [hname, hheld]
    exact hp₀p.nestedUnder_iff (hunder p₀ hp₀) hlegal
  refine ⟨hfollows, fun hregistered p hp => (hfollows p hp).2 (Or.inr ?_)⟩
  have hfirst : m.className = Name.camelize e.2.key := by
    rw [ApiDocument.registeredName?, ← run.className?_parts, Settlement.className?_of_get? hm]
      at hregistered
    exact Option.some.inj hregistered
  rw [hheld, hfirst]
  exact List.find?_cons_of_pos (begins_iff.2 ⟨_, rfl⟩)

/-! ## A map-like model under a reserved name -/

/-- A document with two map-like models, one of them under a key that is reserved as a type name. -/
def ApiDocument.typeOptions : ApiDocument :=
  { title := "Options"
    version := "1"
    models :=
      [("type", { schema := ⟨.object
          { properties :=
              [("kind", ⟨.scalar
                  { kind := .string, enumValues := [.string "small", .string "large"] }, []⟩),
                ("limit", ⟨.union .oneOf [⟨.scalar { kind := .string }, []⟩,
                  ⟨.scalar { kind := .boolean }, []⟩], []⟩)]
            additional := some (.any true) }, []⟩ }),
        ("pet", { schema := ⟨.object
          { properties := [("kind", ⟨.scalar
              { kind := .string, enumValues := [.string "cat", .string "dog"] }, []⟩)]
            additional := some (.any true) }, []⟩ })] }

lemma ApiDocument.exists_result_typeOptions : ∃ api statistics,
    typeOptions.resolve {} = .ok (api, statistics) ∧
      api.models.map (fun e => (e.1, e.2.key, e.2.properties.flatMap (·.nestedNames))) =
        [("ModelType", "type", ["TypeKind", "TypeLimit_sub_0", "TypeLimit_sub_1"]),
          ("Pet", "pet", ["PetKind"])] :=
  exists_result_of (by decide +kernel)

/-- The key that is not reserved is the class name in camel case, so the names inside follow. -/
theorem typeOptions_mapLike_nestedUnder : ∃ api statistics,
    ApiDocument.typeOptions.resolve {} = .ok (api, statistics) ∧
      ∃ e ∈ api.models, ModelFlag.mapLike ∈ e.2.flags ∧
        e.2.properties.flatMap (·.nestedNames) = ["PetKind"] ∧
        ∀ p ∈ e.2.properties, p.NestedUnder e.1 := by
  obtain ⟨api, statistics, h, hmodels⟩ := ApiDocument.exists_result_typeOptions
  have hmem : ("Pet", "pet", ["PetKind"]) ∈
      api.models.map fun e => (e.1, e.2.key, e.2.properties.flatMap (·.nestedNames)) := by
    rw [hmodels]
    exact List.mem_cons_of_mem _ List.mem_cons_self
  obtain ⟨e, he, heq⟩ := List.mem_map.1 hmem
  obtain ⟨-, hkey, hnested⟩ : e.1 = "Pet" ∧ e.2.key = "pet" ∧ _ := by
    simpa only [Prod.mk.injEq] using heq
  have hregistered :
      ApiDocument.typeOptions.registeredName? "pet" = some (Name.camelize "pet") := by
    decide +kernel
  obtain ⟨parts, -, hall⟩ := mapLike_nestedUnder_iff h
  obtain ⟨spec, hspec, hflag, hnames⟩ := hall e he
  have hmapLike : spec.MapLike := by
    rw [hkey] at hspec
    obtain rfl : spec = _ := by simpa [ApiDocument.typeOptions] using hspec
    exact ⟨_, rfl, rfl, List.cons_ne_nil _ _⟩
  exact ⟨api, statistics, h, e, he, hflag hmapLike, hnested,
    (hnames (hflag hmapLike)).2 (hkey ▸ hregistered)⟩

/-- The names inside the model of the reserved key are made from the key, and not from the class
name. -/
theorem not_nestedUnder_typeOptions : ∃ api statistics,
    ApiDocument.typeOptions.resolve {} = .ok (api, statistics) ∧
      ∃ e ∈ api.models, ∃ spec, (e.2.key, spec) ∈ ApiDocument.typeOptions.models ∧ spec.MapLike ∧
        ∃ p ∈ e.2.properties, ¬ p.NestedUnder e.1 := by
  obtain ⟨api, statistics, h, hmodels⟩ := ApiDocument.exists_result_typeOptions
  have hmem : ("ModelType", "type", ["TypeKind", "TypeLimit_sub_0", "TypeLimit_sub_1"]) ∈
      api.models.map fun e => (e.1, e.2.key, e.2.properties.flatMap (·.nestedNames)) := by
    rw [hmodels]
    exact List.mem_cons_self
  obtain ⟨e, he, heq⟩ := List.mem_map.1 hmem
  obtain ⟨hname, hkey, hnested⟩ : e.1 = "ModelType" ∧ e.2.key = "type" ∧ _ := by
    simpa only [Prod.mk.injEq] using heq
  obtain ⟨p, hp, hkind⟩ : ∃ p ∈ e.2.properties, "TypeKind" ∈ p.nestedNames := by
    rw [← List.mem_flatMap, hnested]
    exact List.mem_cons_self
  obtain ⟨spec, hspec, hmapLike⟩ :
      ∃ spec, ("type", spec) ∈ ApiDocument.typeOptions.models ∧ spec.MapLike :=
    ⟨_, List.mem_cons_self, _, rfl, rfl, List.cons_ne_nil _ _⟩
  refine ⟨api, statistics, h, e, he, spec, hkey ▸ hspec, hmapLike, p, hp, fun hunder => ?_⟩
  have hother : begins "TypeKind" "ModelType" = false := by decide
  rw [← hname, hunder.begins _ hkind] at hother
  cases hother

end ApiTypes
