import ApiTypes.Proofs.ModelShape
import ApiTypes.Proofs.UnionVariants
import ApiTypes.Text.Latin

/-!
# What the facts of a model say

The facts that a run tells the renderer about a model are told last, of the model as it is in the
result.  The one exception is whether a union is printed: this is found out when the union is made,
from all its variants, of which some are left out and others become any value later on.  It makes no
difference.  A variant is left out for another one of the same type, which is printed the same way,
and no type of a model or of any value is ever printed.

* `UnionOf.Displayed` — a union that counts as printed when its variants are;
  `flatten_displayed` — unions are made so, and `Displayed.relabel` — stay so.
* `ModelDescriptor.Fact` — what each fact says of a model.
* `Untold.flagged_iff` — a model that had no facts before has those that are right.
* `models_truthful` — **the facts of the models of a result are right.**
-/

namespace ApiTypes

open Resolving
open TypeDescriptor (Current)

/-! ## Unions that are printed -/

/-- **A union that counts as printed just when its variants are.** -/
def UnionOf.Displayed (u : UnionDescriptor) : Prop :=
  u.isDisplayable = true ↔ ∀ t ∈ u.types, t.isDisplayable = true

/-- Leaving out variants makes no difference: each is printed like the one that it is left out
for. -/
lemma unionOf_displayed {classNames : String → Option String} (hnames : Unambiguous classNames)
    {name : String} {ps : List PropertyDescriptor} (h : ∀ p ∈ ps, p.type.Current classNames) :
    (unionOf name ps).Displayed := by
  rw [UnionOf.Displayed, UnionOf.types, unionOf, types_numberVariants]
  simp only [List.all_eq_true, List.forall_mem_map]
  constructor
  · exact fun hall p hp => hall p (firstSeen_subset _ ps hp)
  · intro hkept p hp
    obtain ⟨q, hq, hsame⟩ : ∃ q ∈ firstSeen (fun p q => p.type.sameType q.type) ps,
        q.type.sameType p.type = true :=
      exists_mem_firstSeen (fun p => p.type.sameType_refl) hp
    have hq' := h q (firstSeen_subset _ ps hq)
    rw [← hq'.isDisplayable_of_sameType hnames (h p hp) hsame]
    exact hkept q hq

namespace Scope

variable {scope : Scope}

lemma flatten_displayed (hnames : Unambiguous scope.registry.className?) {name : String}
    {variants : List SchemaNode} {u : UnionDescriptor}
    (h : Gives (scope.flatten name variants) u) : u.Displayed := by
  obtain ⟨ps, hps, rfl⟩ := gives_flatten.1 h
  refine unionOf_displayed hnames fun p hp => ?_
  obtain ⟨e, -, htype, -⟩ := exists_left_of_forall₂ hps hp
  exact htype.current

variable [Spelling]

namespace Modelled

variable {key : String} {spec : ModelSpec} {memo memo' : MapLikeMemo} {m : ModelDescriptor}

lemma displayed (hnames : Unambiguous scope.registry.className?)
    (h : Modelled scope key spec memo m memo') : ∀ u ∈ m.union, u.Displayed := by
  cases h with
  | union hname hshape hunion => simpa using flatten_displayed hnames hunion
  | _ => simp

/-- Nothing is told of a model when it is made. -/
lemma extensions_eq (h : Modelled scope key spec memo m memo') : m.extensions = [] := by
  cases h <;> rfl

end Modelled

end Scope

/-- Other names leave a union as it is, and so do models that are left out. -/
lemma UnionOf.Displayed.relabel {u : UnionDescriptor} (h : u.Displayed)
    {classNames : String → Option String} (hcurrent : ∀ t ∈ u.types, t.Current classNames)
    (classNames' : String → Option String) : (u.mapTypes (relabelType classNames')).Displayed := by
  have htypes : (u.mapTypes (relabelType classNames')).types =
      u.types.map (relabelType classNames') := by
    simp [types, mapTypes, PropertyDescriptor.type_mapTypes]
  rw [Displayed, htypes, List.forall_mem_map]
  refine Iff.trans h (forall₂_congr fun t ht => ?_)
  rw [(hcurrent t ht).isDisplayable_relabelType]

/-! ## Facts -/

namespace ModelDescriptor

variable {m : ModelDescriptor}

/-- **What a fact says of a model.** -/
def Fact (m : ModelDescriptor) : Extension → Prop
  | .hasVars => (ModelFlag.alias ∈ m.flags ∨ ModelFlag.enum ∈ m.flags) ∧
    ∃ t ∈ m.type, ∃ kind : Extension, kind.Fits t
  | .isEnum => ModelFlag.enum ∈ m.flags
  | .oneOf => m.union.isSome = true
  | .isDisplay => ∃ u ∈ m.union, ∀ v ∈ u.variants, v.type.isDisplayable = true
  | .hasString => ∃ p ∈ m.properties, p.type.asPrimitive = some .string
  | .bodyModel => ModelFlag.bodyModel ∈ m.flags
  | kind => (ModelFlag.alias ∈ m.flags ∨ ModelFlag.enum ∈ m.flags) ∧ ∃ t ∈ m.type, kind.Fits t

/-- Telling facts changes nothing that they speak of. -/
lemma fact_withFacts (m : ModelDescriptor) (fact : Extension) :
    m.withFacts.Fact fact ↔ m.Fact fact := by
  cases fact <;> simp [Fact, withFacts, PropertyDescriptor.withFacts]

/-- A model that nothing was told of, but whether it is the body of an operation. -/
structure Untold (m : ModelDescriptor) : Prop where
  get?_eq_none : ∀ fact : Extension, fact ≠ .bodyModel →
    Members.get? m.extensions fact.key = none
  body_iff : m.extensions.isFlagged Extension.bodyModel.key = true ↔ ModelFlag.bodyModel ∈ m.flags

/-- **The facts that such a model is told are right.** -/
lemma Untold.flagged_iff (h : m.Untold) (hdisplay : ∀ u ∈ m.union, u.Displayed)
    (fact : Extension) :
    m.withFacts.extensions.isFlagged fact.key = true ↔ m.withFacts.Fact fact := by
  rw [fact_withFacts]
  by_cases hcount : fact = .variantCount
  · subst hcount
    rw [Extensions.isFlagged, get?_variantCount_withFacts, h.get?_eq_none _ (by decide)]
    -- a number is no mark
    cases m.union <;> simp [Fact, Extension.Fits, Json.ofNat, Json.isTrue]
  have hbefore : fact ≠ .bodyModel → m.extensions.isFlagged fact.key = false := fun hne => by
    rw [Extensions.isFlagged, h.get?_eq_none fact hne]
    rfl
  rw [isFlagged_withFacts m hcount, mem_ownTypeFacts]
  cases fact with
  | bodyModel => simp [Fact, Extension.Fits, h.body_iff]
  | isDisplay =>
    have hiff : ∀ u ∈ m.union, u.isDisplayable = true ↔
        ∀ v ∈ u.variants, v.type.isDisplayable = true := fun u hu => by
      have hu := hdisplay u hu
      rwa [UnionOf.Displayed, UnionOf.types, List.forall_mem_map] at hu
    rw [hbefore (by decide)]
    simpa [Fact, Extension.Fits] using exists_congr fun u => and_congr_right (hiff u)
  | _ =>
    rw [hbefore (by decide)]
    simp [Fact, Extension.Fits, TypeDescriptor.isText, Option.isSome_iff_exists]

/-- Settling tells nothing of a model, but that it is the body of an operation. -/
lemma stable_facts {fact : Extension} (h : fact ≠ .bodyModel) :
    Stable fun m => Members.get? m.extensions fact.key where
  titled _ _ := rfl
  renamedFrom _ _ := rfl
  asBody m := Extensions.get?_flag_of_ne h.symm m.extensions

/-- It changes neither the types of variants nor what is known of them. -/
lemma stable_displayed : Stable fun m => m.union.map fun u => (u.types, u.isDisplayable) where
  titled _ _ := rfl
  renamedFrom previous m := by
    simp [renamedFrom, rebase, UnionOf.rebase, UnionOf.types, Function.comp_def]
  asBody _ := rfl

/-- **A model tells the truth**: its facts are right, no more than one of those that tell apart the
types of aliases and enums is there, one of them is there just when the model says that it has one,
and the variants of its union are counted. -/
structure ToldTruly (m : ModelDescriptor) : Prop where
  flagged_iff : ∀ fact : Extension, m.extensions.isFlagged fact.key = true ↔ m.Fact fact
  kind_unique : ∀ x ∈ Extension.kinds, ∀ y ∈ Extension.kinds,
    m.extensions.isFlagged x.key = true → m.extensions.isFlagged y.key = true → x = y
  hasVars_iff : m.extensions.isFlagged Extension.hasVars.key = true ↔
    ∃ kind ∈ Extension.kinds, m.extensions.isFlagged kind.key = true
  variantCount_eq : Members.get? m.extensions Extension.variantCount.key =
    m.union.map fun u => Json.ofNat u.variants.length

lemma fact_kind_iff {kind : Extension} (h : kind ∈ Extension.kinds) : m.Fact kind ↔
    (ModelFlag.alias ∈ m.flags ∨ ModelFlag.enum ∈ m.flags) ∧ ∃ t ∈ m.type, kind.Fits t := by
  simp only [Extension.kinds, List.mem_cons, List.not_mem_nil, or_false] at h
  rcases h with rfl | rfl | rfl | rfl | rfl <;> rfl

/-- When the facts are right, those about the type of a model follow from each other. -/
lemma toldTruly_of_flagged_iff
    (hflagged : ∀ fact : Extension, m.extensions.isFlagged fact.key = true ↔ m.Fact fact)
    (hcount : Members.get? m.extensions Extension.variantCount.key =
      m.union.map fun u => Json.ofNat u.variants.length) : m.ToldTruly where
  flagged_iff := hflagged
  kind_unique x hx y hy := by
    rw [hflagged, hflagged, fact_kind_iff hx, fact_kind_iff hy]
    rintro ⟨-, t, ht, hx⟩ ⟨-, t', ht', hy⟩
    obtain rfl := Option.some.inj (ht.symm.trans ht')
    exact hx.unique hy
  hasVars_iff := by
    rw [hflagged, Fact]
    constructor
    · rintro ⟨hflags, t, ht, kind, hfits⟩
      exact ⟨kind, hfits.mem_kinds, (hflagged kind).2
        ((fact_kind_iff hfits.mem_kinds).2 ⟨hflags, t, ht, hfits⟩)⟩
    · rintro ⟨kind, hkind, htold⟩
      obtain ⟨hflags, t, ht, hfits⟩ := (fact_kind_iff hkind).1 ((hflagged kind).1 htold)
      exact ⟨hflags, t, ht, kind, hfits⟩
  variantCount_eq := hcount

end ModelDescriptor

/-! ## Whole results -/

namespace ApiDocument.Run

variable [Spelling] {document : ApiDocument} {config : Config} {parts : ResolvedDocument}
  {api : TypedApi} {statistics : Statistics}

/-- A union that is left after names were settled still counts as printed just when its variants
are. -/
lemma displayed_of_left (run : document.Run config parts api statistics)
    {key : String} {spec : ModelSpec}
    {left m : ModelDescriptor} (hspec : (key, spec) ∈ document.models)
    (hm : parts.registry.get? key = some m)
    (hstable : left.union.map (fun u => (u.types, u.isDisplayable)) =
      m.union.map fun u => (u.types, u.isDisplayable)) :
    ∀ u ∈ (left.relabel (parts.settled document config).registry.className?).union,
      u.Displayed := by
  intro u hu
  obtain ⟨leftUnion, hleft, rfl⟩ := Option.map_eq_some_iff.1 hu
  obtain ⟨before, hbefore, heq⟩ := Option.map_eq_some_iff.1
    (hstable.symm.trans (congrArg (Option.map _) hleft))
  obtain ⟨htypes, hdisplayable⟩ := Prod.mk.inj heq
  obtain ⟨made, memo, _, _, hmade, rfl⟩ := run.exists_made hspec hm
  have hunion : before ∈ made.union :=
    Registry.frame_withMapLike (·.union) (fun _ _ _ => rfl) memo key made ▸ hbefore
  have hnames : Unambiguous (Registry.ofDocument document).1.className? :=
    run.className?_parts ▸ run.unambiguous_parts
  have hdisplayed : leftUnion.Displayed := by
    rw [UnionOf.Displayed, ← htypes, ← hdisplayable]
    exact hmade.displayed hnames before hunion
  have hcurrent : ∀ t ∈ leftUnion.types, t.Current parts.registry.className? := by
    intro t ht
    have hbefore : before ∈ (made.withMapLike memo key).unions :=
      List.mem_append_left _ (Option.mem_toList.2 hbefore)
    exact run.models_current _ (Members.mem_of_get? hm) t
      (ModelDescriptor.mem_types_of_mem_unions hbefore (htypes ▸ ht))
  exact hdisplayed.relabel hcurrent _

lemma toldTruly (run : document.Run config parts api statistics)
    {e : String × ModelDescriptor} (he : e ∈ api.models) :
    e.2.ToldTruly := by
  obtain ⟨left, m, spec, hleft, -, heq, hm, hspec, -, hstable⟩ := run.exists_source he
  obtain ⟨_, -, hshaped⟩ := run.settled_shaped _ (Members.mem_of_get? hleft)
  have hfollows := run.forall₂_follows he
  have hdisplayed := run.displayed_of_left hspec hm (hstable _ ModelDescriptor.stable_displayed)
  rw [ModelDescriptor.finished] at heq
  have huntold : (left.relabel (parts.settled document config).registry.className?).Untold := by
    constructor
    · intro fact hfact
      obtain ⟨made, memo, _, _, hmade, rfl⟩ := run.exists_made hspec hm
      have hextensions : (made.withMapLike memo e.2.key).extensions = [] :=
        (Registry.frame_withMapLike (·.extensions) (fun _ _ _ => rfl) memo _ made).trans
          hmade.extensions_eq
      refine (hstable _ (ModelDescriptor.stable_facts hfact)).trans ?_
      rw [hextensions]
      rfl
    · exact (hshaped.relabel _).body_iff.symm
  have hcount : ∀ u ∈ e.2.union, u.variantCount = u.variants.length := by
    intro u hu
    obtain ⟨_, -, hfollow⟩ := exists_left_of_forall₂ hfollows
      (List.mem_append_left _ (Option.mem_toList.2 hu))
    exact hfollow.variantCount_eq
  rw [heq] at hcount ⊢
  refine ModelDescriptor.toldTruly_of_flagged_iff (huntold.flagged_iff hdisplayed) ?_
  rw [ModelDescriptor.get?_variantCount_withFacts, huntold.get?_eq_none _ (by decide),
    Option.or_none]
  exact Option.map_congr fun u hu => congrArg Json.ofNat (hcount u hu)

end ApiDocument.Run

/-- **The facts of the models of a result are right.** -/
theorem models_truthful [Spelling] {document : ApiDocument} {config : Config} {api : TypedApi}
    {statistics : Statistics}
    (h : document.resolve config = .ok (api, statistics)) : ∀ e ∈ api.models, e.2.ToldTruly := by
  obtain ⟨parts, run⟩ := ApiDocument.exists_run h
  exact fun _ he => run.toldTruly he

/-- A document with aliases, an enum, a record, a union that lists a variant twice, and one of whose
variants a model is left out. -/
def ApiDocument.readings : ApiDocument :=
  { title := "Readings"
    version := "1"
    models :=
      [("taken", { schema := ⟨.scalar { kind := .string, format := some "date-time" }, []⟩ }),
        ("series", { schema := ⟨.array (some ⟨.reference "reading", []⟩), []⟩ }),
        ("unit", { schema :=
          ⟨.scalar { kind := .string, enumValues := [.string "C", .string "F"] }, []⟩ }),
        ("sensor", { schema := ⟨.object { properties :=
          [("place", ⟨.scalar { kind := .string }, []⟩)] }, []⟩ }),
        ("reading", { schema := ⟨.union .oneOf [⟨.scalar { kind := .number }, []⟩,
          ⟨.scalar { kind := .string }, []⟩, ⟨.scalar { kind := .number }, []⟩], []⟩ }),
        ("fault", { schema := ⟨.union .anyOf [⟨.scalar { kind := .string }, []⟩,
          ⟨.reference "nameless", []⟩], []⟩ }),
        ("nameless", { schema := ⟨.union .oneOf [⟨.scalar { kind := .string }, []⟩,
          ⟨.scalar { kind := .integer }, []⟩], []⟩, origin := .inlineResponse })] }

lemma ApiDocument.exists_result_readings : ∃ api statistics,
    readings.resolve {} = .ok (api, statistics) ∧
      api.models.map (fun e => (e.1, e.2.extensions.map (·.1))) =
        [("Taken", ["has-vars", "x-rustgen-is-datetime"]),
          ("Series", ["has-vars", "x-rustgen-is-array"]),
          ("Unit", ["has-vars", "is-enum", "x-rustgen-is-string"]),
          ("Sensor", ["x-rustgen-has-string"]),
          ("Reading", ["x-rustgen-enum-one-of", "x-rustgen-is-display", "x-rustgen-variant-count"]),
          ("Fault", ["x-rustgen-enum-one-of", "x-rustgen-variant-count"])] :=
  exists_result_of (by decide +kernel)

theorem readings_models_truthful : ∃ api statistics,
    ApiDocument.readings.resolve {} = .ok (api, statistics) ∧
      api.models.map (·.1) = ["Taken", "Series", "Unit", "Sensor", "Reading", "Fault"] ∧
      ∀ e ∈ api.models, e.2.ToldTruly := by
  obtain ⟨api, statistics, h, hview⟩ := ApiDocument.exists_result_readings
  have hnames := congrArg (List.map Prod.fst) hview
  rw [List.map_map] at hnames
  exact ⟨api, statistics, h, hnames, models_truthful h⟩

end ApiTypes
