import ApiTypes.Descriptor.Facts
import ApiTypes.Proofs.Members

/-!
# What is marked

How `Extensions.isFlagged` answers after something was marked.

* `Extension.key_injective` — no two facts have the same name.
* `isFlagged_flag`, `isFlagged_flagIf`, `isFlagged_foldl_flag` — marking a fact marks no other one.
* `isFlagged_flagContainer` — a container is marked as what it is.
* `Extension.Fits` — what the facts about a type say of it; `Extension.Fits.unique` — no more than
  one of them is right.
* `isFlagged_withFacts`, `get?_variantCount_withFacts` — what a model with its facts is marked as.
-/

namespace ApiTypes

/-- No two facts have the same name. -/
lemma Extension.key_injective : Function.Injective Extension.key := by
  have hnodup : ([.hasVars, .isEnum, .isBool, .isInteger, .isString, .isDateTime, .isArray,
      .hasString, .hasEmptyEnum, .noRename, .oneOf, .isDisplay, .variantCount, .bodyModel,
      .isContainer, .isListContainer, .isMapContainer, .isObject, .perPage, .optionalQueryParams,
      .stringParams, .emptyDefault, .bodyBytes, .previews].map Extension.key).Nodup := by decide
  intro x y h
  refine List.inj_on_of_nodup_map hnodup ?_ ?_ h
  · cases x <;> simp
  · cases y <;> simp

namespace Extensions

variable {e : Extensions}

lemma isFlagged_nil (key : String) : isFlagged [] key = false :=
  rfl

lemma isFlagged_insert (e : Extensions) (name : String) (value : Json) (key : String) :
    isFlagged (Members.insert e name value) key =
      if name = key then value.isTrue else isFlagged e key := by
  rw [isFlagged, Members.get?_insert]
  split <;> rfl

lemma isFlagged_flag (e : Extensions) (x y : Extension) :
    isFlagged (flag e x) y.key = (decide (x = y) || isFlagged e y.key) := by
  rw [flag, flagKey, isFlagged_insert]
  by_cases h : x = y
  · simp [h, Json.isTrue]
  · simp [h, Extension.key_injective.ne h]

lemma isFlagged_flagIf (e : Extensions) (x y : Extension) (condition : Bool) :
    isFlagged (flagIf e x condition) y.key =
      (condition && decide (x = y) || isFlagged e y.key) := by
  rw [flagIf]
  cases condition with
  | true => exact isFlagged_flag e x y
  | false => rfl

lemma isFlagged_flagIf_iff (e : Extensions) (x y : Extension) (condition : Bool) :
    isFlagged (flagIf e x condition) y.key = true ↔
      (y = x ∧ condition = true) ∨ isFlagged e y.key = true := by
  rw [isFlagged_flagIf, Bool.or_eq_true, Bool.and_eq_true, decide_eq_true_eq, and_comm,
    @eq_comm _ x]

/-- Marking facts one by one marks them and no others. -/
lemma isFlagged_foldl_flag (xs : List Extension) (e : Extensions) (y : Extension) :
    isFlagged (xs.foldl flag e) y.key = (decide (y ∈ xs) || isFlagged e y.key) := by
  induction xs generalizing e with
  | nil => simp
  | cons x xs ih =>
    rw [List.foldl_cons, ih, isFlagged_flag]
    simp [eq_comm, Bool.or_left_comm, Bool.or_assoc]

/-- Marking a fact leaves the values of other facts. -/
lemma get?_flag_of_ne {x y : Extension} (h : x ≠ y) (e : Extensions) :
    Members.get? (flag e x) y.key = Members.get? e y.key := by
  rw [flag, flagKey, Members.get?_insert, if_neg (Extension.key_injective.ne h)]

lemma get?_flagIf_of_ne {x y : Extension} (h : x ≠ y) (e : Extensions) (condition : Bool) :
    Members.get? (flagIf e x condition) y.key = Members.get? e y.key := by
  rw [flagIf]
  split
  · exact get?_flag_of_ne h e
  · rfl

lemma get?_foldl_flag {xs : List Extension} {y : Extension} (h : y ∉ xs) (e : Extensions) :
    Members.get? (xs.foldl flag e) y.key = Members.get? e y.key := by
  induction xs generalizing e with
  | nil => rfl
  | cons x xs ih =>
    obtain ⟨hne, hxs⟩ := not_or.1 (List.mem_cons.not.1 h)
    rw [List.foldl_cons, ih hxs, get?_flag_of_ne (Ne.symm hne)]

/-- **A container is marked as what it is**, and other types are not marked. -/
lemma isFlagged_flagContainer (e : Extensions) (t : TypeDescriptor) (y : Extension) :
    isFlagged (flagContainer e t) y.key =
      (decide (y = .isContainer) && (t.isMap || t.isList) ||
        decide (y = .isMapContainer) && t.isMap || decide (y = .isListContainer) && t.isList ||
        isFlagged e y.key) := by
  rw [flagContainer]
  cases hmap : t.isMap with
  | true =>
    have hlist : t.isList = false := by simp [TypeDescriptor.isList, hmap]
    simp [isFlagged_flag, hlist, eq_comm, Bool.or_left_comm, Bool.or_assoc]
  | false =>
    cases hlist : t.isList with
    | true => simp [isFlagged_flag, eq_comm, Bool.or_left_comm, Bool.or_assoc]
    | false => simp

end Extensions

/-! ## Facts about a type -/

namespace Extension

/-- The facts about the type that an alias or an enum stands for. -/
def kinds : List Extension :=
  [.isBool, .isInteger, .isString, .isDateTime, .isArray]

/-- **What a fact says of a type.**  Facts of other things say nothing of any type. -/
def Fits (t : TypeDescriptor) : Extension → Prop
  | .isBool => t.asPrimitive = some .bool
  | .isInteger => ∃ p, t.asPrimitive = some p ∧ p.isInteger = true
  | .isString => t.asPrimitive = some .string
  | .isDateTime => t.asPrimitive = some .dateTime
  | .isArray => t.isList = true
  | _ => False

variable {x y : Extension} {t : TypeDescriptor}

lemma Fits.mem_kinds (h : x.Fits t) : x ∈ kinds := by
  cases x <;> first | exact h.elim | decide

/-- A list is no primitive type. -/
lemma asPrimitive_of_isList (h : t.isList = true) : t.asPrimitive = none := by
  have hcontainer : t.isContainer = true := by
    rw [TypeDescriptor.isList, Bool.and_eq_true] at h
    exact h.1
  simp [TypeDescriptor.asPrimitive, hcontainer]

/-- **The fact about a type is the one that is right of it**, if there is one. -/
lemma kindFact?_eq_some_iff : kindFact? t = some x ↔ x.Fits t := by
  rw [kindFact?]
  by_cases hlist : t.isList = true
  · rw [if_pos hlist, Option.some.injEq]
    cases x <;> simp [Fits, hlist, asPrimitive_of_isList hlist]
  · rw [if_neg hlist]
    cases hprimitive : t.asPrimitive with
    | none => cases x <;> simp [Fits, hlist, hprimitive]
    | some p => cases p <;> cases x <;> simp [Fits, hlist, hprimitive, Primitive.isInteger]

/-- No more than one fact about a type is right. -/
lemma Fits.unique (hx : x.Fits t) (hy : y.Fits t) : x = y :=
  Option.some.inj ((kindFact?_eq_some_iff.2 hx).symm.trans (kindFact?_eq_some_iff.2 hy))

lemma mem_typeFacts : x ∈ typeFacts t ↔ x.Fits t ∨ x = .hasVars ∧ ∃ y : Extension, y.Fits t := by
  rw [typeFacts]
  cases hkind : kindFact? t with
  | none =>
    have hnone : ∀ y : Extension, ¬ y.Fits t := fun y hy => by
      rw [kindFact?_eq_some_iff.2 hy] at hkind
      cases hkind
    simp [hnone]
  | some fact =>
    have hfact := kindFact?_eq_some_iff.1 hkind
    have hiff : x.Fits t ↔ x = fact := ⟨fun hx => hx.unique hfact, fun heq => heq ▸ hfact⟩
    rw [hiff]
    simp [show ∃ y : Extension, y.Fits t from ⟨fact, hfact⟩]

end Extension

/-! ## Facts about a model -/

namespace ModelDescriptor

open Extensions (isFlagged)

variable {fact : Extension}

lemma mem_ownTypeFacts {m : ModelDescriptor} : fact ∈ m.ownTypeFacts ↔
    (ModelFlag.alias ∈ m.flags ∨ ModelFlag.enum ∈ m.flags) ∧
      ∃ t ∈ m.type, fact.Fits t ∨ fact = .hasVars ∧ ∃ y : Extension, y.Fits t := by
  rw [ownTypeFacts]
  split
  · rename_i hflags
    simp only [Bool.or_eq_true, List.contains_iff_mem] at hflags
    simp [hflags, Extension.mem_typeFacts]
  · rename_i hflags
    simp only [Bool.or_eq_true, List.contains_iff_mem] at hflags
    simp [hflags]

/-- The facts about a type are none of a union's or an operation's. -/
lemma not_mem_ownTypeFacts (m : ModelDescriptor) (hkind : fact ∉ Extension.kinds)
    (hvars : fact ≠ .hasVars) : fact ∉ m.ownTypeFacts := by
  intro hmem
  obtain ⟨-, t, -, hfits | ⟨heq, -⟩⟩ := mem_ownTypeFacts.1 hmem
  · exact hkind hfits.mem_kinds
  · exact hvars heq

lemma isFlagged_unionFacts (e : Extensions) (u : UnionDescriptor) (h : fact ≠ .variantCount) :
    isFlagged (unionFacts e u) fact.key = true ↔
      (fact = .isDisplay ∧ u.isDisplayable = true) ∨ fact = .oneOf ∨
        isFlagged e fact.key = true := by
  rw [unionFacts, Extensions.isFlagged_flagIf_iff, Extensions.isFlagged_insert,
    if_neg (Extension.key_injective.ne h.symm), Extensions.isFlagged_flag, Bool.or_eq_true,
    decide_eq_true_eq, @eq_comm _ Extension.oneOf]

/-- **What a model with its facts is marked as**: what its parts say, and what it was marked as
before. -/
lemma isFlagged_withFacts (m : ModelDescriptor) (h : fact ≠ .variantCount) :
    m.withFacts.extensions.isFlagged fact.key = true ↔
      (fact = .hasString ∧ ∃ p ∈ m.properties, p.type.isText = true) ∨
      (∃ u ∈ m.union, (fact = .isDisplay ∧ u.isDisplayable = true) ∨ fact = .oneOf) ∨
      (fact = .isEnum ∧ ModelFlag.enum ∈ m.flags) ∨ fact ∈ m.ownTypeFacts ∨
      m.extensions.isFlagged fact.key = true := by
  have hbefore : (Extensions.flagIf (m.ownTypeFacts.foldl Extensions.flag m.extensions) .isEnum
      (m.flags.contains .enum)).isFlagged fact.key = true ↔
        (fact = .isEnum ∧ ModelFlag.enum ∈ m.flags) ∨ fact ∈ m.ownTypeFacts ∨
          m.extensions.isFlagged fact.key = true := by
    rw [Extensions.isFlagged_flagIf_iff, Extensions.isFlagged_foldl_flag, Bool.or_eq_true,
      decide_eq_true_eq, List.contains_iff_mem]
  rw [withFacts]
  dsimp only
  rw [Extensions.isFlagged_flagIf_iff, List.any_eq_true]
  cases m.union with
  | none => exact or_congr_right (hbefore.trans (by simp))
  | some u =>
    refine or_congr_right ((isFlagged_unionFacts _ u h).trans ?_)
    rw [hbefore]
    simp [or_assoc]

/-- The number of variants is that of the union, when there is one. -/
lemma get?_variantCount_withFacts (m : ModelDescriptor) :
    Members.get? m.withFacts.extensions Extension.variantCount.key =
      (m.union.map fun u => Json.ofNat u.variantCount).or
        (Members.get? m.extensions Extension.variantCount.key) := by
  have hown : Extension.variantCount ∉ m.ownTypeFacts :=
    m.not_mem_ownTypeFacts (by decide) (by decide)
  rw [withFacts]
  dsimp only
  rw [Extensions.get?_flagIf_of_ne (by decide)]
  cases m.union with
  | none =>
    dsimp only
    rw [Extensions.get?_flagIf_of_ne (by decide), Extensions.get?_foldl_flag hown]
    rfl
  | some u =>
    dsimp only
    rw [unionFacts, Extensions.get?_flagIf_of_ne (by decide), Members.get?_insert, if_pos rfl]
    rfl

end ModelDescriptor

end ApiTypes
