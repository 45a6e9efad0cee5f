import ApiTypes.Proofs.ClassName
import ApiTypes.Resolution.Enum
import ApiTypes.Text.Latin
import Mathlib.Data.List.Forall2

/-!
# The variants of an enum

The values of an enum become variants one after another, and each takes the first free name that
its text makes.  Different texts can make one name, and a name with a number behind it can be the
one that a later text makes, so what is free depends on all names that were given before.

* `EnumVariant.Spells` — the text that a variant keeps of its value.
* `firstFree_enumVariants`, `nodup_enumVariants` — what holds of the names of variants, whatever
  names were in use before.
* `EnumDescriptor.Represents`, `describeEnum_represents` — **an enum represents its values**: none
  is lost, and no two are confused.
-/

namespace ApiTypes

/-- Whether a value is `null`. -/
def Json.isNull : Json → Bool
  | .null => true
  | _ => false

/-- **A variant with the text of a value**: of a string that is the string itself, of any other
value its JSON on one line. -/
inductive EnumVariant.Spells : Json → EnumVariant → Prop where
  | string (name text : String) : Spells (.string text) ⟨name, text⟩
  | other {value : Json} (name : String) (hnull : value ≠ .null)
      (hstring : ∀ text, value ≠ .string text) : Spells value ⟨name, value.compact⟩

/-- Every value but `null` has a text. -/
lemma enumText?_cases (value : Json) :
    (value.isNull = true ∧ enumText? value = none) ∨
      (value.isNull = false ∧ ∃ text, enumText? value = some text ∧
        ∀ name, EnumVariant.Spells value ⟨name, text⟩) := by
  cases value with
  | null => exact Or.inl ⟨rfl, rfl⟩
  | string text => exact Or.inr ⟨rfl, text, rfl, fun name => .string name text⟩
  | _ => exact Or.inr ⟨rfl, _, rfl, fun name => .other name (by simp) (by simp)⟩

/-! ## Variants one after another -/

/-- Variants stand for the values that have a text, in order. -/
lemma enumVariants_spells [Spelling] (values : List Json) (used : List String) :
    List.Forall₂ EnumVariant.Spells (values.filter fun value => !value.isNull)
      (enumVariants (values.filterMap enumText?) used) := by
  induction values generalizing used with
  | nil => exact .nil
  | cons value values ih =>
    rcases enumText?_cases value with ⟨hnull, htext⟩ | ⟨hnull, text, htext, hspells⟩
    · rw [List.filter_cons_of_neg (by simp [hnull]), List.filterMap_cons_none htext]
      exact ih used
    · rw [List.filter_cons_of_pos (by simp [hnull]), List.filterMap_cons_some htext, enumVariants]
      exact .cons (hspells _) (ih _)

variable {texts used : List String}

/-- No two variants share a name, and none has a name that was in use. -/
lemma nodup_enumVariants [Spelling] (texts used : List String) :
    ((enumVariants texts used).map (·.name)).Nodup ∧
      ∀ v ∈ enumVariants texts used, v.name ∉ used := by
  induction texts generalizing used with
  | nil => simp [enumVariants]
  | cons text texts ih =>
    obtain ⟨hnodup, hfresh⟩ := ih (Name.unique (Name.variantName text) used :: used)
    rw [enumVariants]
    constructor
    · rw [List.map_cons, List.nodup_cons]
      refine ⟨fun hmem => ?_, hnodup⟩
      obtain ⟨v, hv, hname⟩ := List.mem_map.1 hmem
      exact hfresh v hv (hname ▸ List.mem_cons_self)
    · refine List.forall_mem_cons.2 ⟨Name.unique_not_mem _ _, fun v hv hmem => ?_⟩
      exact hfresh v hv (List.mem_cons_of_mem _ hmem)

/-- **A variant has the first free name**, where the names that were in use and those of the
variants before it are taken. -/
lemma firstFree_enumVariants [Spelling] {before after : List EnumVariant} {v : EnumVariant}
    (h : enumVariants texts used = before ++ v :: after) :
    Name.FirstFree (· ∈ used ++ before.map (·.name)) (Name.variantName v.value) v.name := by
  induction before generalizing texts used with
  | nil =>
    cases texts with
    | nil => cases h
    | cons text texts =>
      obtain ⟨rfl, -⟩ := List.cons.inj h
      rw [List.map_nil, List.append_nil]
      exact Name.unique_firstFree _ used
  | cons first before ih =>
    cases texts with
    | nil => cases h
    | cons text texts =>
      obtain ⟨rfl, hrest⟩ := List.cons.inj h
      refine (ih hrest).congr fun name => ?_
      simp only [List.map_cons, List.mem_append, List.mem_cons]
      rw [or_assoc, or_left_comm]

/-! ## All values -/

/-- **An enum that represents its values.** -/
structure EnumDescriptor.Represents [Spelling] (e : EnumDescriptor) (values : List Json) :
    Prop where
  /-- Every value but `null` has a variant with its text, in order. -/
  spells : List.Forall₂ EnumVariant.Spells (values.filter fun value => !value.isNull) e.variants
  /-- No two variants share a name. -/
  nodup : (e.variants.map (·.name)).Nodup
  /-- A variant has the name that its text makes, unless a variant before it has that name; then it
  is the one with the least number from two on that none of them has. -/
  firstFree : ∀ before v after, e.variants = before ++ v :: after →
    Name.FirstFree (· ∈ before.map (·.name)) (Name.variantName v.value) v.name

/-- **Enums lose and confuse nothing**: each represents its values. -/
theorem describeEnum_represents [Spelling] (name : String) (values : List Json) :
    (describeEnum name values).name = name ∧ (describeEnum name values).Represents values :=
  ⟨rfl, enumVariants_spells values [], (nodup_enumVariants _ []).1,
    fun _ _ _ h => firstFree_enumVariants h⟩

/-- A name with a number behind it is taken from the text that makes it. -/
example : ((describeEnum "Sign" [.string "1", .string "-1", .null, .string "12"]).variants.map
    (·.name)) = ["_1", "_12", "_122"] := by
  decide +kernel

end ApiTypes
