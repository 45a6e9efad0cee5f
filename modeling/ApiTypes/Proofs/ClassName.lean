import ApiTypes.Name.Identifier
import ApiTypes.Name.Unique
import Mathlib.Tactic.Lemma
import Std.Data.String.ToNat

/-!
# Class names

Which texts come out as class names, and which of them come out as they went in.  The former holds
by any spelling, the latter by any that leaves ASCII as it is.

* `Name.Legal` — letters and digits with a capital first, and not reserved.
* `className_legal` — every class name is legal, whatever the script of the name it is made from.
* `className_of_legal` — a legal name is its own class name.
* `Legal.append_digits`, `Legal.append_enum` — legal names stay legal with digits behind them, and
  with the ending of unions.
* `FirstFree`, `unique_firstFree` — a unique name is the first that is free, so it is not in use and
  depends on the used names alone, not on their order (`unique_not_mem`, `unique_congr`).
-/

namespace ApiTypes.Name

open Spelling (spelled)
open Text (lowerAscii)

/-! ## Letters and digits

All that is said about single letters is a finite check over ASCII, once a letter or digit is known
to be ASCII.
-/

lemma ascii_of_isAlphanum {c : Char} (h : c.isAlphanum) : c.toNat < 0x80 := by
  have hranges : (decide ('A'.val ≤ c.val ∧ c.val ≤ 'Z'.val) ||
      (decide ('a'.val ≤ c.val) && decide (c.val ≤ 'z'.val)) ||
      (decide ('0'.val ≤ c.val) && decide (c.val ≤ '9'.val))) = true := h
  simp only [Bool.or_eq_true, Bool.and_eq_true, decide_eq_true_eq, UInt32.le_iff_toNat_le]
    at hranges
  have hc : c.toNat = c.val.toNat := rfl
  have hZ : 'Z'.val.toNat = 90 := rfl
  have hz : 'z'.val.toNat = 122 := rfl
  have h9 : '9'.val.toNat = 57 := rfl
  omega

/-- What holds of the first 128 characters holds of every letter and digit. -/
lemma alphanum_forall {P : Char → Prop} (h : ∀ n < 0x80, P (Char.ofNat n)) {c : Char}
    (hc : c.isAlphanum) : P c := by
  have hn := h c.toNat (ascii_of_isAlphanum hc)
  rwa [Char.ofNat_toNat] at hn

lemma isAlphanum_of_isUpper {c : Char} (h : c.isUpper) : c.isAlphanum := by
  show ((c.isUpper || c.isLower) || c.isDigit) = true
  simp [h]

lemma isAlphanum_of_isDigit {c : Char} (h : c.isDigit) : c.isAlphanum := by
  show (c.isAlpha || c.isDigit) = true
  simp [h]

lemma toLower_isAlphanum {c : Char} (h : c.isAlphanum) : c.toLower.isAlphanum :=
  alphanum_forall (P := fun c => c.isAlphanum → c.toLower.isAlphanum) (by decide +kernel) h h

lemma toUpper_isAlphanum {c : Char} (h : c.isAlphanum) : c.toUpper.isAlphanum :=
  alphanum_forall (P := fun c => c.isAlphanum → c.toUpper.isAlphanum) (by decide +kernel) h h

lemma toUpper_isUpper_or_isDigit {c : Char} (h : c.isAlphanum) :
    c.toUpper.isUpper ∨ c.toUpper.isDigit :=
  alphanum_forall (P := fun c => c.isAlphanum → c.toUpper.isUpper ∨ c.toUpper.isDigit)
    (by decide +kernel) h h

lemma isAlphanum_of_head {c : Char} (h : c.isUpper ∨ c.isDigit) : c.isAlphanum :=
  h.elim isAlphanum_of_isUpper isAlphanum_of_isDigit

lemma toUpper_of_head {c : Char} (h : c.isUpper ∨ c.isDigit) : c.toUpper = c :=
  alphanum_forall (P := fun c => c.isUpper ∨ c.isDigit → c.toUpper = c) (by decide +kernel)
    (isAlphanum_of_head h) h

lemma toLower_of_isDigit {c : Char} (h : c.isDigit) : c.toLower = c :=
  alphanum_forall (P := fun c => c.isDigit → c.toLower = c) (by decide +kernel)
    (isAlphanum_of_isDigit h) h

/-! ## Words -/

lemma splitWords_alphanum (cs : List Char) :
    (∀ c ∈ (splitWords cs).1, c.isAlphanum) ∧
      ∀ w ∈ (splitWords cs).2, w ≠ [] ∧ ∀ c ∈ w, c.isAlphanum := by
  induction cs with
  | nil => simp [splitWords]
  | cons c cs ih =>
    obtain ⟨hword, hlater⟩ := ih
    by_cases hc : c.isAlphanum
    · simp only [splitWords, hc, if_true]
      exact ⟨List.forall_mem_cons.2 ⟨hc, hword⟩, hlater⟩
    · simp only [splitWords, hc]
      refine ⟨by simp, ?_⟩
      by_cases he : (splitWords cs).1 = []
      · simpa [he] using hlater
      · simpa [he] using ⟨hword, hlater⟩

lemma mem_runs {cs w : List Char} (h : w ∈ runs cs) : w ≠ [] ∧ ∀ c ∈ w, c.isAlphanum := by
  obtain ⟨hword, hlater⟩ := splitWords_alphanum cs
  by_cases he : (splitWords cs).1 = []
  · exact hlater w (by simpa [runs, he] using h)
  · simp only [runs, List.isEmpty_eq_false_iff.2 he] at h
    rcases List.mem_cons.1 h with rfl | h
    · exact ⟨he, hword⟩
    · exact hlater w h

/-- Words are runs of letters and digits, and never empty. -/
lemma mem_words [Spelling] {cs w : List Char} (h : w ∈ words cs) :
    w ≠ [] ∧ ∀ c ∈ w, c.isAlphanum :=
  mem_runs h

/-- In ASCII a name has the words that stand there. -/
lemma words_of_ascii [AsciiSpelling] {cs : List Char} (h : ∀ c ∈ cs, c.toNat < 0x80) :
    words cs = runs cs := by
  rw [words, AsciiSpelling.spelled_of_ascii h]

lemma splitWords_of_alphanum {cs : List Char} (h : ∀ c ∈ cs, c.isAlphanum) :
    splitWords cs = (cs, []) := by
  induction cs with
  | nil => rfl
  | cons c cs ih =>
    obtain ⟨hc, hcs⟩ := List.forall_mem_cons.1 h
    simp [splitWords, hc, ih hcs]

lemma runs_of_alphanum {cs : List Char} (hne : cs ≠ []) (h : ∀ c ∈ cs, c.isAlphanum) :
    runs cs = [cs] := by
  simp [runs, splitWords_of_alphanum h, hne]

/-- A single run of letters and digits is its own only word. -/
lemma words_of_alphanum [AsciiSpelling] {cs : List Char} (hne : cs ≠ [])
    (h : ∀ c ∈ cs, c.isAlphanum) : words cs = [cs] := by
  rw [words_of_ascii fun c hc => ascii_of_isAlphanum (h c hc), runs_of_alphanum hne h]

/-! ## Camel case -/

lemma capitalizeWord_alphanum {among : Bool} {w : List Char} (h : ∀ c ∈ w, c.isAlphanum) :
    ∀ c ∈ capitalizeWord among w, c.isAlphanum := by
  cases w with
  | nil => simp [capitalizeWord]
  | cons c cs =>
    obtain ⟨hc, hcs⟩ := List.forall_mem_cons.1 h
    refine List.forall_mem_cons.2 ⟨toUpper_isAlphanum hc, ?_⟩
    split
    · simpa using fun d hd => toLower_isAlphanum (hcs d hd)
    · exact hcs

/-- A camelized name has letters and digits only. -/
lemma camelizeChars_alphanum [Spelling] {cs : List Char} :
    ∀ c ∈ camelizeChars cs, c.isAlphanum := by
  intro c hc
  obtain ⟨w, hw, hc⟩ := List.mem_flatMap.1 hc
  exact capitalizeWord_alphanum (mem_words hw).2 c hc

lemma camelize_alphanum [Spelling] (s : String) : ∀ c ∈ (camelize s).toList, c.isAlphanum := by
  rw [camelize, String.toList_ofList]
  exact camelizeChars_alphanum

/-- A camelized name starts with a capital or a digit. -/
lemma camelizeChars_head [Spelling] {cs rest : List Char} {c : Char}
    (h : camelizeChars cs = c :: rest) : c.isUpper ∨ c.isDigit := by
  rw [camelizeChars] at h
  cases hw : words cs with
  | nil => simp [hw] at h
  | cons w ws =>
    obtain ⟨hne, hcs⟩ := mem_words (hw ▸ List.mem_cons_self : w ∈ words cs)
    obtain ⟨d, ds, rfl⟩ := List.exists_cons_of_ne_nil hne
    simp only [hw, List.flatMap_cons, capitalizeWord, List.cons_append, List.cons.injEq] at h
    rw [← h.1]
    exact toUpper_isUpper_or_isDigit (hcs d List.mem_cons_self)

/-- A single word with a capital or a digit first is camelized already. -/
lemma camelize_of_word [AsciiSpelling] {c : Char} {rest : List Char} {s : String}
    (hs : s.toList = c :: rest) (hc : c.isUpper ∨ c.isDigit) (hrest : ∀ d ∈ rest, d.isAlphanum) :
    camelize s = s := by
  have hall : ∀ d ∈ c :: rest, d.isAlphanum :=
    List.forall_mem_cons.2 ⟨isAlphanum_of_head hc, hrest⟩
  have hchars : camelizeChars s.toList = s.toList := by
    rw [hs, camelizeChars, words_of_alphanum (List.cons_ne_nil c rest) hall]
    simp [capitalizeWord, toUpper_of_head hc]
  rw [camelize, hchars, String.ofList_toList]

/-! ## Numbered names -/

lemma toList_numbered (base : String) (i : Nat) :
    (numbered base i).toList = base.toList ++ Nat.toDigits 10 i := by
  simp [numbered]

lemma numbered_injective {base : String} {i j : Nat} (h : numbered base i = numbered base j) :
    i = j :=
  Nat.repr_injective (String.append_right_inj base |>.1 h)

/-- The search for a free number ends at the least one from the start on. -/
lemma firstFree_spec (base : String) (used : List String) (i : Nat) :
    ∃ j, i ≤ j ∧ firstFree base used i = numbered base j ∧ numbered base j ∉ used ∧
      ∀ k, i ≤ k → k < j → numbered base k ∈ used := by
  fun_induction firstFree base used i with
  | case1 used i hmem ih =>
    obtain ⟨j, hij, heq, hfree, hleast⟩ := ih
    -- `numbered base i` was struck from the list, but it is not the name that is found
    have hne : numbered base j ≠ numbered base i := fun h => by
      have := numbered_injective h
      omega
    refine ⟨j, by omega, heq, fun h => hfree ((List.mem_erase_of_ne hne).2 h), ?_⟩
    intro k hik hkj
    rcases Nat.eq_or_lt_of_le hik with rfl | hlt
    · exact hmem
    · exact List.mem_of_mem_erase (hleast k hlt hkj)
  | case2 used i hfree => exact ⟨i, Nat.le_refl i, rfl, hfree, fun k _ _ => by omega⟩

/-- The name that is found for a wanted one: that one if it is free, and otherwise the first of the
numbered ones from two on that is free. -/
inductive FirstFree (taken : String → Prop) (base : String) : String → Prop where
  | plain (hfree : ¬ taken base) : FirstFree taken base base
  | numbered {i : Nat} (htaken : taken base) (hi : 2 ≤ i) (hfree : ¬ taken (numbered base i))
      (hleast : ∀ k, 2 ≤ k → k < i → taken (numbered base k)) :
      FirstFree taken base (numbered base i)

namespace FirstFree

variable {taken : String → Prop} {base name name' : String}

lemma free (h : FirstFree taken base name) : ¬ taken name := by
  cases h with
  | plain hfree => exact hfree
  | numbered _ _ hfree _ => exact hfree

lemma eq_or_numbered (h : FirstFree taken base name) :
    name = base ∨ ∃ i, 2 ≤ i ∧ name = Name.numbered base i := by
  cases h with
  | plain _ => exact Or.inl rfl
  | numbered _ hi _ _ => exact Or.inr ⟨_, hi, rfl⟩

/-- What is free depends on the taken names alone. -/
lemma congr {taken' : String → Prop} (h : FirstFree taken base name)
    (htaken : ∀ name, taken name ↔ taken' name) : FirstFree taken' base name := by
  obtain rfl : taken = taken' := funext fun name => propext (htaken name)
  exact h

/-- Only one name is the first that is free. -/
lemma eq (h : FirstFree taken base name) (h' : FirstFree taken base name') : name = name' := by
  cases h with
  | plain hfree =>
    cases h' with
    | plain _ => rfl
    | numbered htaken _ _ _ => exact (hfree htaken).elim
  | @numbered i htaken hi hfree hleast =>
    cases h' with
    | plain hfree' => exact (hfree' htaken).elim
    | @numbered j _ hj hfree' hleast' =>
      have hji : j ≤ i := Nat.le_of_not_lt fun hlt => hfree (hleast' i hi hlt)
      have hij : i ≤ j := Nat.le_of_not_lt fun hlt => hfree' (hleast j hj hlt)
      rw [Nat.le_antisymm hij hji]

end FirstFree

/-- **A unique name is the first that is free.** -/
lemma unique_firstFree (base : String) (used : List String) :
    FirstFree (· ∈ used) base (unique base used) := by
  rw [unique]
  split
  · rename_i htaken
    obtain ⟨j, hj, heq, hfree, hleast⟩ := firstFree_spec base used 2
    rw [heq]
    exact .numbered htaken hj hfree hleast
  · rename_i hfree
    exact .plain hfree

/-- A unique name is not in use. -/
lemma unique_not_mem (base : String) (used : List String) : unique base used ∉ used :=
  (unique_firstFree base used).free

/-- A unique name is the wanted one, or the wanted one with a number from two on. -/
lemma unique_eq_or_numbered (base : String) (used : List String) :
    unique base used = base ∨ ∃ i, 2 ≤ i ∧ unique base used = numbered base i :=
  (unique_firstFree base used).eq_or_numbered

/-- The search ends at the same name for lists with the same names. -/
lemma unique_congr {base : String} {used used' : List String}
    (h : ∀ name, name ∈ used ↔ name ∈ used') : unique base used = unique base used' :=
  ((unique_firstFree base used).congr h).eq (unique_firstFree base used')

/-! ## Legal class names -/

/-- A name that generated code can give to a type: a capital, then letters and digits, and not a
reserved name. -/
structure Legal (name : String) : Prop where
  pascal : ∃ c rest, name.toList = c :: rest ∧ c.isUpper ∧ ∀ d ∈ rest, d.isAlphanum
  unreserved : isReservedTypeName name = false

lemma toList_lowerAscii (s : String) : (lowerAscii s).toList = s.toList.map Char.toLower := by
  simp [lowerAscii]

/-- No reserved name has a digit in it. -/
lemma reserved_no_digit : ∀ w ∈ takenTypeNames ++ keywords, ∀ c ∈ w.toList, ¬ c.isDigit := by
  have hall : (takenTypeNames ++ keywords).all fun w => w.toList.all fun c => !c.isDigit := by
    decide +kernel
  intro w hw c hc
  simpa using List.all_eq_true.1 (List.all_eq_true.1 hall w hw) c hc

/-- No taken name ends in `Enum`, and a keyword that ends so is no longer than that. -/
lemma reserved_enum :
    (∀ w ∈ takenTypeNames, ¬ "Enum".toList <:+ w.toList) ∧
      ∀ w ∈ keywords, "enum".toList <:+ w.toList → w.toList.length = 4 := by
  decide +kernel

/-- No taken name begins with `Model`, and no keyword begins with `model`. -/
lemma reserved_not_model :
    (∀ w ∈ takenTypeNames, ¬ "Model".toList <+: w.toList) ∧
      ∀ w ∈ keywords, ¬ "model".toList <+: w.toList := by
  decide +kernel

lemma isReservedTypeName_eq_false {name : String} :
    isReservedTypeName name = false ↔
      name ∉ takenTypeNames ∧ lowerAscii name ∉ keywords := by
  simp [isReservedTypeName, isKeyword]

/-- A name with a digit in it is not reserved. -/
lemma unreserved_of_digit {name : String} {c : Char} (hc : c ∈ name.toList) (hd : c.isDigit) :
    isReservedTypeName name = false := by
  rw [isReservedTypeName_eq_false]
  constructor
  · intro h
    exact reserved_no_digit name (List.mem_append_left _ h) c hc hd
  · intro h
    refine reserved_no_digit (lowerAscii name) (List.mem_append_right _ h) c ?_ hd
    rw [toList_lowerAscii]
    exact List.mem_map.2 ⟨c, hc, toLower_of_isDigit hd⟩

/-- A name that begins with `Model` is not reserved. -/
lemma unreserved_model (name : String) : isReservedTypeName ("Model" ++ name) = false := by
  rw [isReservedTypeName_eq_false]
  constructor
  · intro h
    exact reserved_not_model.1 _ h (by simp)
  · intro h
    refine reserved_not_model.2 _ h ?_
    rw [toList_lowerAscii, String.toList_append, List.map_append]
    exact List.prefix_append _ _

lemma adjustmentOf_eq_none {name : String} :
    adjustmentOf name = none ↔ isReservedTypeName name = false ∧ startsWithDigit name = false := by
  rw [adjustmentOf]
  cases isReservedTypeName name <;> cases startsWithDigit name <;> simp

/-- **Every class name is legal**, whatever the name it is made from. -/
lemma className_legal [Spelling] (s : String) : Legal (className s) := by
  rw [className, modelName, ModelName.ofCamelized]
  have hall := camelize_alphanum s
  by_cases hempty : (camelize s).isEmpty
  · simp only [hempty, if_true]
    have hrest : "nnamedModel".toList.all Char.isAlphanum := by decide
    exact ⟨⟨'U', "nnamedModel".toList, rfl, rfl, List.all_eq_true.1 hrest⟩, by decide⟩
  simp only [hempty]
  cases hadj : adjustmentOf (camelize s) with
  | some adjustment =>
    refine ⟨⟨'M', "odel".toList ++ (camelize s).toList, by simp, rfl, ?_⟩, unreserved_model _⟩
    have hmodel : "odel".toList.all Char.isAlphanum := by decide
    intro d hd
    rcases List.mem_append.1 hd with hd | hd
    · exact List.all_eq_true.1 hmodel d hd
    · exact hall d hd
  | none =>
    obtain ⟨hres, hdigit⟩ := adjustmentOf_eq_none.1 hadj
    refine ⟨?_, hres⟩
    obtain ⟨c, rest, hcs⟩ : ∃ c rest, (camelize s).toList = c :: rest :=
      List.exists_cons_of_ne_nil fun h => hempty (by simpa using h)
    rw [startsWithDigit, hcs] at hdigit
    rw [hcs] at hall
    refine ⟨c, rest, hcs, ?_, (List.forall_mem_cons.1 hall).2⟩
    rw [camelize, String.toList_ofList] at hcs
    exact (camelizeChars_head hcs).resolve_right (by simpa using hdigit)

namespace Legal

variable {name : String}

lemma isAlphanum (h : Legal name) : ∀ d ∈ name.toList, d.isAlphanum := by
  obtain ⟨c, rest, hname, hc, hrest⟩ := h.pascal
  rw [hname]
  exact List.forall_mem_cons.2 ⟨isAlphanum_of_isUpper hc, hrest⟩

lemma ne_reserved (h : Legal name) {w : String} (hw : isReservedTypeName w = true) : name ≠ w := by
  rintro rfl
  rw [h.unreserved] at hw
  cases hw

lemma pascal_append (h : Legal name) {longer : String} {ending : List Char}
    (hlonger : longer.toList = name.toList ++ ending) (hending : ∀ d ∈ ending, d.isAlphanum) :
    ∃ c rest, longer.toList = c :: rest ∧ c.isUpper ∧ ∀ d ∈ rest, d.isAlphanum := by
  obtain ⟨c, rest, hname, hc, hrest⟩ := h.pascal
  refine ⟨c, rest ++ ending, by rw [hlonger, hname, List.cons_append], hc, fun d hd => ?_⟩
  rcases List.mem_append.1 hd with hd | hd
  · exact hrest d hd
  · exact hending d hd

/-- A legal name with digits behind it is legal. -/
lemma append_digits (h : Legal name) {digits : String} (hdigits : ∀ d ∈ digits.toList, d.isDigit) :
    Legal (name ++ digits) := by
  constructor
  · exact h.pascal_append String.toList_append fun d hd => isAlphanum_of_isDigit (hdigits d hd)
  · cases hlist : digits.toList with
    | nil =>
      obtain rfl : digits = "" := by simpa using hlist
      rw [String.append_empty]
      exact h.unreserved
    | cons d ds =>
      have hd : d ∈ digits.toList := hlist ▸ List.mem_cons_self
      refine unreserved_of_digit (c := d) ?_ (hdigits d hd)
      rw [String.toList_append]
      exact List.mem_append_right _ hd

/-- A legal name with a number behind it is legal. -/
lemma numbered (h : Legal name) (i : Nat) : Legal (numbered name i) := by
  have hdigits : ∀ d ∈ i.repr.toList, d.isDigit := fun d hd => by
    have hd : d ∈ Nat.toDigits 10 i := by simpa using hd
    exact Nat.isDigit_of_mem_toDigits (by decide) (by decide) hd
  exact h.append_digits hdigits

/-- A legal name with the ending of unions is legal. -/
lemma append_enum (h : Legal name) : Legal (name ++ "Enum") := by
  constructor
  · have hend : "Enum".toList.all Char.isAlphanum := by decide
    exact h.pascal_append String.toList_append (List.all_eq_true.1 hend)
  · obtain ⟨c, rest, hname, -⟩ := h.pascal
    rw [isReservedTypeName_eq_false]
    constructor
    · intro htaken
      exact reserved_enum.1 _ htaken (by simp)
    · intro hkeyword
      have hlower : (lowerAscii (name ++ "Enum")).toList =
          (name.toList.map Char.toLower) ++ "enum".toList := by
        rw [toList_lowerAscii, String.toList_append, List.map_append]
        rfl
      have hsuffix : "enum".toList <:+ (lowerAscii (name ++ "Enum")).toList := by
        rw [hlower]
        exact List.suffix_append _ _
      have hlength := reserved_enum.2 _ hkeyword hsuffix
      rw [hlower, hname] at hlength
      simp at hlength

/-- A unique name made from a legal one is legal. -/
lemma unique (h : Legal name) (used : List String) : Legal (unique name used) := by
  rcases unique_eq_or_numbered name used with heq | ⟨i, -, heq⟩
  · rwa [heq]
  · rw [heq]
    exact h.numbered i

end Legal

/-- A legal name is its own class name, and nothing has to be escaped in it. -/
lemma modelName_of_legal [AsciiSpelling] {name : String} (h : Legal name) :
    modelName name = ⟨name, none⟩ := by
  obtain ⟨c, rest, hname, hc, hrest⟩ := h.pascal
  have hcamel : camelize name = name := camelize_of_word hname (Or.inl hc) hrest
  have hdigit : startsWithDigit name = false := by
    rw [startsWithDigit, hname]
    exact alphanum_forall (P := fun c => c.isUpper → c.isDigit = false) (by decide +kernel)
      (isAlphanum_of_isUpper hc) hc
  have hempty : name.isEmpty = false := by
    rw [String.isEmpty_eq_false_iff]
    rintro rfl
    cases hname
  simp [modelName, ModelName.ofCamelized, hcamel, hempty, adjustmentOf, h.unreserved, hdigit]

/-- **A legal name is its own class name.** -/
lemma className_of_legal [AsciiSpelling] {name : String} (h : Legal name) :
    className name = name := by
  rw [className, modelName_of_legal h]

/-! ## Names without their beginning -/

lemma length_camelize [AsciiSpelling] {s : String} (hne : s.toList ≠ [])
    (h : ∀ c ∈ s.toList, c.isAlphanum) : (camelize s).toList.length = s.toList.length := by
  obtain ⟨c, cs, hs⟩ := List.exists_cons_of_ne_nil hne
  rw [camelize, String.toList_ofList, camelizeChars, words_of_alphanum hne h, hs]
  simp [capitalizeWord]

lemma className_eq_or [Spelling] (s : String) : className s = "UnnamedModel" ∨
    className s = camelize s ∨ className s = "Model" ++ camelize s := by
  simp only [className, modelName, ModelName.ofCamelized]
  split
  · exact Or.inl rfl
  · split
    · exact Or.inr (Or.inr rfl)
    · exact Or.inr (Or.inl rfl)

/-- A legal name that begins with a capital other than `M` and `U` is not the class name of what
follows the beginning. -/
lemma className_ne_of_append [AsciiSpelling] {start rest name : String} {c : Char}
    {cs : List Char} (hlegal : Legal name) (hname : name = start ++ rest)
    (hstart : start.toList = c :: cs) (hM : c ≠ 'M') (hU : c ≠ 'U') (hne : rest ≠ "") :
    className rest ≠ name := by
  have h : ∀ d ∈ rest.toList, d.isAlphanum := fun d hd => by
    refine hlegal.isAlphanum d ?_
    rw [hname, String.toList_append]
    exact List.mem_append_right _ hd
  intro heq
  rw [hname] at heq
  have hchars : (className rest).toList = c :: cs ++ rest.toList := by
    rw [heq, String.toList_append, hstart]
  rcases className_eq_or rest with hclass | hclass | hclass
  · rw [hclass] at hchars
    exact hU (List.cons.inj hchars).1.symm
  · rw [hclass] at hchars
    have hlength := congrArg List.length hchars
    rw [length_camelize (by simpa using hne) h, List.length_append, List.length_cons] at hlength
    omega
  · rw [hclass, String.toList_append] at hchars
    exact hM (List.cons.inj hchars).1.symm

end ApiTypes.Name
