import ApiTypes.Proofs.ModelContent
import ApiTypes.Proofs.SettledNames
import ApiTypes.Text.Latin

/-!
# Names inside models follow class names

The enums and the union variants inside a model are called after it.  Their names are made once,
when the model is, and whenever the class name changes they are moved by their beginning.  So what
has to be known is that they begin with the class name at any time, and then moving them is putting
another beginning before the same rest.

* `PropertyDescriptor.NestedUnder`, `ModelDescriptor.NestedUnder` — the names inside a property and
  a model begin as they should.
* `Modelled.nestedUnder` — they do when the model is made.
* `ModelDescriptor.Becomes` — what settling makes of a model, change by change;
  `becomes_settle` — there are no other changes.
* `NestedUnder.called`, `NestedUnder.becomes` — names follow in one change, and in all of them.
* `nestedUnder_of_mem` — **they follow in every result.**
-/

namespace ApiTypes

open Resolving

/-! ## Names that begin alike -/

/-- The variants of a union are called after a name and their places. -/
def UnionOf.NumberedUnder (name : String) (u : UnionDescriptor) : Prop :=
  ∀ (i : Nat) (v : PropertyDescriptor), u.variants[i]? = some v →
    v.name = name ++ "_sub_" ++ i.repr ∧ v.baseName = name ++ "_sub_" ++ i.repr

/-- **The names inside a property** begin with the name of its owner and its own in camel case. -/
structure PropertyDescriptor.NestedUnder [Spelling] (owner : String) (p : PropertyDescriptor) :
    Prop where
  enum : ∀ e ∈ p.enumValues, e.name = owner ++ Name.camelize p.baseName
  union : ∀ u ∈ p.union, u.NumberedUnder (owner ++ Name.camelize p.baseName)

/-- **The names inside a model** begin with a class name. -/
structure ModelDescriptor.NestedUnder [Spelling] (className : String) (m : ModelDescriptor) :
    Prop where
  enum : ∀ e ∈ m.enumValues, e.name = className
  union : ∀ u ∈ m.union, u.NumberedUnder className
  properties : ∀ p ∈ m.properties, p.NestedUnder className

/-! ## Names when a model is made -/

lemma unionOf_numberedUnder (name : String) (ps : List PropertyDescriptor) :
    (unionOf name ps).NumberedUnder name := by
  intro i v hv
  rw [unionOf, getElem?_numberVariants, Nat.zero_add] at hv
  obtain ⟨p, -, rfl⟩ := Option.map_eq_some_iff.1 hv
  exact ⟨rfl, rfl⟩

namespace Scope

variable {scope : Scope} {memo memo' : MapLikeMemo} {owner : Owner}

lemma flatten_numberedUnder {name : String} {variants : List SchemaNode} {u : UnionDescriptor}
    (h : Gives (scope.flatten name variants) u) : u.NumberedUnder name := by
  obtain ⟨ps, -, h⟩ := gives_bind.1 h
  exact gives_pure.1 h ▸ unionOf_numberedUnder name ps

variable [Spelling]

/-- The names inside a property that is described by its node. -/
lemma describe_nestedUnder {baseName : String} {node : SchemaNode} {facts : PropertyFacts}
    (h : Gives (scope.describe owner baseName node) facts) (required : Bool) :
    (facts.property baseName required).NestedUnder owner.typePrefix := by
  cases described_of_gives h with
  | unions hitems hunion =>
    exact ⟨by simp [PropertyFacts.property], by
      simpa [PropertyFacts.property, Owner.nestedName] using flatten_numberedUnder hunion⟩
  | union hshape hunion =>
    exact ⟨by simp [PropertyFacts.property], by
      simpa [PropertyFacts.property, Owner.nestedName] using flatten_numberedUnder hunion⟩
  | enum hshape hvalues htype =>
    exact ⟨by simp [PropertyFacts.property, describeEnum, Owner.nestedName],
      by simp [PropertyFacts.property]⟩
  | _ => exact ⟨by simp [PropertyFacts.property], by simp [PropertyFacts.property]⟩

lemma properties_nestedUnder {required : String → Bool} {declared : List (String × SchemaNode)}
    {ps : List PropertyDescriptor}
    (h : Gives (scope.properties owner required declared memo) (ps, memo')) :
    ∀ p ∈ ps, p.NestedUnder owner.typePrefix := by
  intro p hp
  obtain ⟨e, -, ⟨-, rfl⟩ | ⟨-, facts, hfacts, rfl⟩⟩ := exists_declared h p hp
  · exact ⟨by simp [PropertyFacts.property], by simp [PropertyFacts.property]⟩
  · exact describe_nestedUnder hfacts _

/-- **When a model is made** all names inside it begin with its class name. -/
lemma Modelled.nestedUnder {key : String} {spec : ModelSpec} {m : ModelDescriptor}
    (h : Modelled scope key spec memo m memo') : m.NestedUnder m.className := by
  cases h with
  | mapLike hname hshape hmapLike hmemo => exact ⟨by simp, by simp, by simp⟩
  | record hname hshape hmapLike hps => exact ⟨by simp, by simp, properties_nestedUnder hps⟩
  | union hname hshape hunion =>
    exact ⟨by simp, by simpa using flatten_numberedUnder hunion, by simp⟩
  | enum hname hshape htype => exact ⟨by simp [describeEnum], by simp, by simp⟩
  | synonym hname hshape hunion htype => exact ⟨by simp, by simp, by simp⟩

end Scope

/-! ## Names that move -/

/-- A name that begins with the old one is moved exactly at its beginning. -/
lemma rebase_append (previous current rest : String) :
    rebase previous current (previous ++ rest) = current ++ rest := by
  have hstart : Text.afterStart previous.toList (previous ++ rest).toList = some rest.toList :=
    Text.afterStart_eq_some_iff.2 String.toList_append
  rw [rebase, hstart]
  dsimp only
  rw [String.ofList_toList]

lemma UnionOf.NumberedUnder.rebase {previous rest : String} {u : UnionDescriptor}
    (h : u.NumberedUnder (previous ++ rest)) (current : String) :
    (u.rebase previous current).NumberedUnder (current ++ rest) := by
  intro i v hv
  rw [UnionOf.rebase, List.getElem?_map] at hv
  obtain ⟨v', hv', rfl⟩ := Option.map_eq_some_iff.1 hv
  obtain ⟨hname, hbaseName⟩ := h i v' hv'
  dsimp only
  rw [hname, hbaseName, String.append_assoc, String.append_assoc, rebase_append,
    String.append_assoc, String.append_assoc]
  exact ⟨rfl, rfl⟩

lemma PropertyDescriptor.NestedUnder.rebase [Spelling] {previous : String} {p : PropertyDescriptor}
    (h : p.NestedUnder previous) (current : String) :
    (p.rebase previous current).NestedUnder current where
  enum e he := by
    obtain ⟨e', he', rfl⟩ := Option.map_eq_some_iff.1 he
    rw [EnumDescriptor.rebase, h.enum e' he', rebase_append]
    rfl
  union u hu := by
    obtain ⟨u', hu', rfl⟩ := Option.map_eq_some_iff.1 hu
    exact (h.union u' hu').rebase current

namespace ModelDescriptor

variable {m m' : ModelDescriptor}

/-- **When a model takes a class name**, the names inside it follow. -/
lemma NestedUnder.called [Spelling] (h : m.NestedUnder m.className) (className : String) :
    (m.called className).NestedUnder className := by
  by_cases hsame : className = m.className
  · rwa [hsame, called_self]
  rw [called_of_ne hsame]
  refine ⟨fun e he => ?_, fun u hu => ?_, fun p hp => ?_⟩
  · obtain ⟨e', he', rfl⟩ := Option.map_eq_some_iff.1 he
    have hname : e'.name = m.className ++ "" := by simpa using h.enum e' he'
    rw [EnumDescriptor.rebase, hname, rebase_append]
    simp
  · obtain ⟨u', hu', rfl⟩ := Option.map_eq_some_iff.1 hu
    have hunion : u'.NumberedUnder (m.className ++ "") := by simpa using h.union u' hu'
    simpa using hunion.rebase className
  · obtain ⟨p', hp', rfl⟩ := List.mem_map.1 hp
    exact (h.properties p' hp').rebase className

/-- Counting as the body of an operation changes no name. -/
lemma NestedUnder.asBody [Spelling] {className : String} (h : m.NestedUnder className) :
    m.asBody.NestedUnder className :=
  ⟨h.enum, h.union, h.properties⟩

/-- **What settling makes of a model**: it takes class names one after another, and may come to
count as the body of an operation. -/
inductive Becomes (m : ModelDescriptor) : ModelDescriptor → Prop where
  | refl : Becomes m m
  | called {m' : ModelDescriptor} (h : Becomes m m') (className : String) :
      Becomes m (m'.called className)
  | asBody {m' : ModelDescriptor} (h : Becomes m m') : Becomes m m'.asBody

/-- Through any number of changes the names inside a model follow its class name. -/
lemma NestedUnder.becomes [Spelling] (h : m.NestedUnder m.className) (hm' : m.Becomes m') :
    m'.NestedUnder m'.className := by
  induction hm' with
  | refl => exact h
  | called _ className ih =>
    rw [className_called]
    exact ih.called className
  | asBody _ ih => exact ih.asBody

end ModelDescriptor

namespace Settlement

variable {s : Settlement} {key : String} {m m' : ModelDescriptor}

lemma becomes_carryOut [Spelling] (hs : s.registry.Consistent) (hm : s.registry.get? key = some m)
    (ruling : Ruling) (hm' : (s.carryOut key ruling).registry.get? key = some m') :
    m.Becomes m' := by
  cases ruling with
  | keep =>
    obtain rfl := Option.some.inj (hm.symm.trans hm')
    exact .refl
  | rename desired =>
    obtain rfl := Option.some.inj ((get?_rename hs hm desired).symm.trans hm')
    exact .called .refl _
  | renameBody desired =>
    obtain rfl := Option.some.inj ((get?_markBody (get?_rename hs hm desired)).symm.trans hm')
    exact .asBody (.called .refl _)
  | drop =>
    rw [(get?_carryOut_eq_none_iff hs hm).2 rfl] at hm'
    cases hm'

end Settlement

/-- **A model that is left when names were settled** came out of such changes. -/
theorem becomes_settle [AsciiSpelling] {r : Registry} (hr : r.Consistent) (hlegal : r.LegalNames)
    {suggestions : Suggestions} {operations : List OperationDescriptor} {key : String}
    {m m' : ModelDescriptor} (hm : r.get? key = some m)
    (hm' : (r.settle suggestions operations).registry.get? key = some m') : m.Becomes m' := by
  have hnamed := Settlement.applySuggestions_moves (s := ⟨r, 0, 0, []⟩) hr suggestions
  have hneeded := Settlement.dropUnreferenced_moves (hnamed.consistent hr)
    (operations.flatMap (·.references))
  have hmoves : Settlement.Moves _ _ := hnamed.trans hneeded
  have hconsistent := hmoves.consistent hr
  obtain ⟨last, hlast⟩ := (Settlement.dropMarkers_moves hconsistent).exists_get? hm'
  obtain ⟨hturns, hturn, heq⟩ :=
    Settlement.get?_applySuggestions (s := ⟨r, 0, 0, []⟩) hr suggestions hm
  have hfirst : m.Becomes last := Settlement.becomes_carryOut (hturns.consistent hr) hturn _
    (heq ▸ Settlement.get?_dropUnreferenced (hnamed.consistent hr) hlast)
  obtain rfl := Option.some.inj
    (hm'.symm.trans (Settlement.get?_dropMarkers hconsistent (hmoves.legalNames hlegal) hlast))
  split
  · exact .called hfirst _
  · exact hfirst

/-! ## Names in a result -/

lemma UnionOf.NumberedUnder.mapTypes {name : String} {u : UnionDescriptor}
    (h : u.NumberedUnder name) (f : TypeDescriptor → TypeDescriptor) :
    UnionOf.NumberedUnder name { u with variants := u.variants.map (·.mapTypes f) } := by
  intro i v hv
  rw [List.getElem?_map] at hv
  obtain ⟨v', hv', rfl⟩ := Option.map_eq_some_iff.1 hv
  rw [PropertyDescriptor.mapTypes_eq]
  exact h i v' hv'

lemma PropertyDescriptor.NestedUnder.mapTypes [Spelling] {owner : String} {p : PropertyDescriptor}
    (h : p.NestedUnder owner) (f : TypeDescriptor → TypeDescriptor) :
    (p.mapTypes f).NestedUnder owner := by
  rw [PropertyDescriptor.mapTypes_eq]
  refine ⟨h.enum, fun u hu => ?_⟩
  obtain ⟨u', hu', rfl⟩ := Option.map_eq_some_iff.1 hu
  exact (h.union u' hu').mapTypes f

/-- Making type names anew, and adding facts, changes no name inside a model. -/
lemma ModelDescriptor.NestedUnder.finished [Spelling] {className : String} {m : ModelDescriptor}
    (h : m.NestedUnder className) (classNames : String → Option String) :
    (m.finished classNames).NestedUnder className where
  enum := h.enum
  union u hu := by
    obtain ⟨u', hu', rfl⟩ := Option.map_eq_some_iff.1 hu
    exact (h.union u' hu').mapTypes _
  properties p hp := by
    obtain ⟨p', hp', rfl⟩ := List.mem_map.1 hp
    obtain ⟨p'', hp'', rfl⟩ := List.mem_map.1 hp'
    obtain ⟨henum, hunion⟩ := (h.properties p'' hp'').mapTypes (relabelType classNames)
    exact ⟨henum, hunion⟩

/-- A model that does not count as map-like got no properties from elsewhere. -/
lemma ModelDescriptor.withMapLike_of_not_mem {memo : MapLikeMemo} {key : String}
    {m : ModelDescriptor} (h : ModelFlag.mapLike ∉ (m.withMapLike memo key).flags) :
    m.withMapLike memo key = m := by
  rw [withMapLike] at h ⊢
  split at h
  · exact absurd (ModelFlags.mem_set.2 (Or.inl rfl)) h
  · rfl

/-- **The names inside a model follow its class name.**  In every result, whatever class names a
model has had, the enums and the variants inside it are called after the one that it ended up with,
unless it counts as map-like. -/
theorem nestedUnder_of_mem [AsciiSpelling] {document : ApiDocument} {config : Config}
    {api : TypedApi} {statistics : Statistics}
    (h : document.resolve config = .ok (api, statistics)) :
    ∀ e ∈ api.models, ModelFlag.mapLike ∉ e.2.flags → e.2.NestedUnder e.1 := by
  obtain ⟨parts, run⟩ := ApiDocument.exists_run h
  intro e he hflag
  obtain ⟨left, m, spec, hleft, hname, heq, hm, hspec, -, hstable⟩ := run.exists_source he
  obtain ⟨made, memo, before, after, hmade, rfl⟩ := run.exists_made hspec hm
  have hcontent := congrArg Prod.fst (hstable _ ModelDescriptor.stable_content)
  rw [heq, ModelDescriptor.flags_finished] at hflag
  have hplain := ModelDescriptor.withMapLike_of_not_mem
    fun hmapLike => hflag ((decide_eq_decide.1 hcontent).2 hmapLike)
  have hbecomes := becomes_settle run.parts_consistent run.parts_legalNames hm hleft
  rw [hplain] at hbecomes
  rw [hname, heq]
  exact (hmade.nestedUnder.becomes hbecomes).finished _

/-- A document in which a body with an enum and a union inside it is called after its operation,
under a name that another model holds, and a lifted union loses its marker. -/
def ApiDocument.pickedPets : ApiDocument :=
  { title := "Pets"
    version := "1"
    models :=
      [("PickPet", { schema := ⟨.scalar { kind := .string }, []⟩ }),
        ("pets_post_body", { schema := ⟨.object { properties :=
          [("pet-kind", ⟨.scalar { kind := .string, enumValues := [.string "cat", .string "dog"] },
              []⟩),
            ("size", ⟨.union .oneOf [⟨.scalar { kind := .string }, []⟩,
              ⟨.scalar { kind := .integer }, []⟩], []⟩)] }, []⟩, origin := .requestBody }),
        ("OneOfCatDog", { schema := ⟨.union .oneOf [⟨.scalar { kind := .string }, []⟩,
          ⟨.scalar { kind := .boolean }, []⟩], []⟩, origin := .composed })]
    operations :=
      [{ path := "/pets"
         method := "post"
         requestBody := some { schema := ⟨.reference "pets_post_body", []⟩
                               metadata := [(operationNameKey, .string "pick pet")] }
         responses := [("200", { schema := some ⟨.reference "OneOfCatDog", []⟩ })] }] }

/-- The names inside a model: those of its enum and of its union, and those inside its
properties. -/
def ModelDescriptor.nestedNames (m : ModelDescriptor) : List String :=
  m.enumValues.toList.map (·.name) ++ m.variants.map (·.name) ++ m.properties.flatMap fun p =>
    p.enumValues.toList.map (·.name) ++ p.union.toList.flatMap fun u => u.variants.map (·.name)

lemma ApiDocument.exists_result_pickedPets : ∃ api statistics,
    pickedPets.resolve {} = .ok (api, statistics) ∧
      api.models.map (fun e => (e.1, e.2.flags, e.2.nestedNames)) =
        [("PickPet", [.alias], []),
          ("PickPet2", [.record, .bodyModel, .renamed],
            ["PickPet2PetKind", "PickPet2Size_sub_0", "PickPet2Size_sub_1"]),
          ("CatDog", [.union, .renamed], ["CatDog_sub_0", "CatDog_sub_1"])] :=
  exists_result_of (by decide +kernel)

theorem pickedPets_nestedUnder : ∃ api statistics,
    ApiDocument.pickedPets.resolve {} = .ok (api, statistics) ∧
      ∃ e ∈ api.models, e.2.flags = [.union, .renamed] ∧ ModelFlag.mapLike ∉ e.2.flags ∧
        e.2.NestedUnder "CatDog" := by
  obtain ⟨api, statistics, h, hnames⟩ := ApiDocument.exists_result_pickedPets
  have hmem : ("CatDog", [ModelFlag.union, .renamed], ["CatDog_sub_0", "CatDog_sub_1"]) ∈
      api.models.map fun e => (e.1, e.2.flags, e.2.nestedNames) := by
    rw [hnames]
    exact List.mem_cons_of_mem _ (List.mem_cons_of_mem _ List.mem_cons_self)
  obtain ⟨e, he, heq⟩ := List.mem_map.1 hmem
  obtain ⟨hname, hrest⟩ := Prod.mk.inj heq
  have hflags : e.2.flags = [.union, .renamed] := (Prod.mk.inj hrest).1
  have hplain : ModelFlag.mapLike ∉ e.2.flags := by
    rw [hflags]
    decide
  exact ⟨api, statistics, h, e, he, hflags, hplain, hname ▸ nestedUnder_of_mem h e he hplain⟩

end ApiTypes
