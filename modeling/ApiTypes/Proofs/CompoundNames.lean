import ApiTypes.Proofs.ClassName
import ApiTypes.Text.Latin
import Mathlib.Data.List.Basic

/-!
# Compound names in one letter case

A name that was made safe is a compound name: its words are joined by underscores.  What is taken
for granted of the letter case that it is then written in, if anything, is one of three things.

* `Compound` — letters, digits and underscores between them; `sanitizeChars_compound` — the names
  that were made safe are so.
* `SnakeCased`, `ConstantCased` — what a compound name is written with in small letters and in
  capitals.
* `KeepsCompound` — a compound name stays one.
* `snakeCased_snakeCase`, `constantCased_constantCase`, `keepsCompound_snakeCase` — **in Latin
  spelling all three hold**.
-/

namespace ApiTypes.Name

open Text (isJoint lower separateParts)

/-! ## Compound names -/

/-- **A compound name**: letters, digits and underscores, the latter at neither end. -/
structure Compound (cs : List Char) : Prop where
  mem : ∀ c ∈ cs, c.isAlphanum = true ∨ c = '_'
  head : ∀ c ∈ cs.head?, c.isAlphanum = true
  last : ∀ c ∈ cs.getLast?, c.isAlphanum = true

lemma compound_of_alphanum {cs : List Char} (h : ∀ c ∈ cs, c.isAlphanum = true) : Compound cs where
  mem c hc := Or.inl (h c hc)
  head c hc := h c (List.mem_of_mem_head? hc)
  last c hc := h c (List.mem_of_getLast? hc)

/-- A word before a compound name, with an underscore between them. -/
lemma Compound.append {word cs : List Char} (hword : ∀ c ∈ word, c.isAlphanum = true)
    (hne : word ≠ []) (hcs : cs ≠ []) (h : Compound cs) : Compound (word ++ ['_'] ++ cs) where
  mem c hc := by
    simp only [List.append_assoc, List.mem_append, List.mem_singleton] at hc
    rcases hc with hc | hc | hc
    · exact Or.inl (hword c hc)
    · exact Or.inr hc
    · exact h.mem c hc
  head c hc := by
    obtain ⟨d, ds, rfl⟩ := List.exists_cons_of_ne_nil hne
    obtain rfl := Option.some.inj hc
    exact hword _ List.mem_cons_self
  last c hc := by
    rw [List.getLast?_append_of_ne_nil _ hcs] at hc
    exact h.last c hc

/-- Words joined by underscores are a compound name. -/
lemma compound_intercalate {words : List (List Char)}
    (h : ∀ w ∈ words, w ≠ [] ∧ ∀ c ∈ w, c.isAlphanum = true) :
    Compound (['_'].intercalate words) := by
  induction words with
  | nil => exact compound_of_alphanum (by simp)
  | cons word words ih =>
    obtain ⟨⟨hne, hword⟩, hwords⟩ := List.forall_mem_cons.1 h
    cases words with
    | nil =>
      rw [List.intercalate_singleton]
      exact compound_of_alphanum hword
    | cons next words =>
      rw [List.intercalate_cons_cons]
      refine (ih hwords).append hword hne ?_
      obtain ⟨c, cs, rfl⟩ := List.exists_cons_of_ne_nil (hwords next List.mem_cons_self).1
      cases words <;> simp [List.intercalate_cons_cons]

lemma ascii_of_compound {c : Char} (h : c.isAlphanum = true ∨ c = '_') : c.toNat < 0x80 := by
  rcases h with h | rfl
  · exact ascii_of_isAlphanum h
  · decide

/-- **Names that are made safe are compound names.** -/
lemma sanitizeChars_compound [Spelling] (cs : List Char) : Compound (sanitizeChars cs) :=
  compound_intercalate fun _ => mem_words

/-! ## Letters of one case -/

/-- Small letters, digits and the underscore. -/
def SnakeChar (c : Char) : Prop :=
  c.isLower = true ∨ c.isDigit = true ∨ c = '_'

instance (c : Char) : Decidable (SnakeChar c) :=
  inferInstanceAs (Decidable (_ ∨ _))

/-- Letters of one case, digits and the underscore. -/
def CaseChar (isLetter : Char → Bool) (c : Char) : Prop :=
  isLetter c = true ∨ c.isDigit = true ∨ c = '_'

instance (isLetter : Char → Bool) (c : Char) : Decidable (CaseChar isLetter c) :=
  inferInstanceAs (Decidable (_ ∨ _))

/-- A snake case that turns letters, digits and underscores into small letters, digits and
underscores. -/
def SnakeCased (snake : List Char → List Char) : Prop :=
  ∀ cs, (∀ c ∈ cs, c.isAlphanum = true ∨ c = '_') → ∀ c ∈ snake cs, SnakeChar c

/-- A constant case that turns letters, digits and underscores into capitals, digits and
underscores, and leaves something of a text that has more than underscores. -/
structure ConstantCased (constant : List Char → List Char) : Prop where
  mem : ∀ cs, (∀ c ∈ cs, c.isAlphanum = true ∨ c = '_') →
    ∀ c ∈ constant cs, CaseChar Char.isUpper c
  ne_nil : ∀ cs, (∀ c ∈ cs, c.isAlphanum = true ∨ c = '_') → (∃ c ∈ cs, c.isAlphanum = true) →
    constant cs ≠ []

/-- A letter case in which a compound name stays one. -/
def KeepsCompound (change : List Char → List Char) : Prop :=
  ∀ cs, Compound cs → Compound (change cs)

/-! ## Parts of compound names -/

lemma isJoint_of_alphanum {c : Char} (h : c.isAlphanum = true) : isJoint c = false :=
  alphanum_forall (P := fun c => c.isAlphanum = true → isJoint c = false) (by decide +kernel) h h

/-- Held apart, the parts of a name have no other characters but underscores. -/
lemma mem_separateParts {cs : List Char} {c : Char} (h : c ∈ separateParts cs) :
    c = '_' ∨ c ∈ cs := by
  have hjoint : ∀ d, c = (if isJoint d then '_' else d) → c = '_' ∨ c = d := by
    intro d hd
    split at hd
    · exact Or.inl hd
    · exact Or.inr hd
  induction cs using Text.separateParts.induct with
  | case1 => cases h
  | case2 d =>
    refine (hjoint d (List.mem_singleton.1 h)).imp_right ?_
    rintro rfl
    exact List.mem_cons_self
  | case3 d next cs hboundary ih =>
    rw [separateParts, if_pos hboundary] at h
    rcases List.mem_cons.1 h with rfl | h
    · exact Or.inr List.mem_cons_self
    rcases List.mem_cons.1 h with rfl | h
    · exact Or.inl rfl
    · exact (ih h).imp_right (List.mem_cons_of_mem _)
  | case4 d next cs hboundary ih =>
    rw [separateParts, if_neg hboundary] at h
    rcases List.mem_cons.1 h with h | h
    · refine (hjoint d h).imp_right ?_
      rintro rfl
      exact List.mem_cons_self
    · exact (ih h).imp_right (List.mem_cons_of_mem _)

/-- What comes first stays first, unless it is a joint. -/
lemma separateParts_cons (c : Char) (cs : List Char) : ∃ d rest,
    separateParts (c :: cs) = d :: rest ∧ (isJoint c = false → d = c) := by
  cases cs with
  | nil => exact ⟨_, [], rfl, fun hjoint => by simp [hjoint]⟩
  | cons next cs =>
    rw [separateParts]
    split
    · exact ⟨c, _, rfl, fun _ => rfl⟩
    · exact ⟨_, _, rfl, fun hjoint => by simp [hjoint]⟩

/-- What comes last stays last. -/
lemma getLast?_separateParts (cs : List Char) :
    (separateParts cs).getLast? = cs.getLast?.map fun c => if isJoint c then '_' else c := by
  induction cs using Text.separateParts.induct with
  | case1 => rfl
  | case2 c => rfl
  | case3 c next cs hboundary ih =>
    obtain ⟨d, rest, hrest, -⟩ := separateParts_cons next cs
    rw [hrest] at ih
    simp [separateParts, hboundary, hrest, ih]
  | case4 c next cs hboundary ih =>
    obtain ⟨d, rest, hrest, -⟩ := separateParts_cons next cs
    rw [hrest] at ih
    simp [separateParts, hboundary, hrest, ih]

lemma separateParts_compound {cs : List Char} (h : Compound cs) : Compound (separateParts cs) where
  mem c hc := by
    rcases mem_separateParts hc with rfl | hc
    · exact Or.inr rfl
    · exact h.mem c hc
  head c hc := by
    cases cs with
    | nil => cases hc
    | cons first cs =>
      have hfirst := h.head first rfl
      obtain ⟨d, rest, hrest, hd⟩ := separateParts_cons first cs
      rw [hrest, hd (isJoint_of_alphanum hfirst)] at hc
      exact Option.some.inj hc ▸ hfirst
  last c hc := by
    rw [getLast?_separateParts] at hc
    obtain ⟨last, hlast, rfl⟩ := Option.map_eq_some_iff.1 hc
    have hlast := h.last last hlast
    rwa [if_neg (by simp [isJoint_of_alphanum hlast])]

lemma lower_of_compound {c : Char} (h : c.isAlphanum = true ∨ c = '_') : lower c = [c.toLower] := by
  rw [lower, if_pos (ascii_of_compound h)]

/-- In small letters a compound name is one. -/
lemma lower_compound {cs : List Char} (h : Compound cs) : Compound (cs.flatMap lower) := by
  have hlower : cs.flatMap lower = cs.map Char.toLower := by
    rw [← List.flatMap_singleton' (cs.map Char.toLower), List.flatMap_map]
    exact List.flatMap_congr fun c hc => lower_of_compound (h.mem c hc)
  rw [hlower]
  constructor
  · rintro c hc
    obtain ⟨d, hd, rfl⟩ := List.mem_map.1 hc
    rcases h.mem d hd with hd | rfl
    · exact Or.inl (toLower_isAlphanum hd)
    · exact Or.inr rfl
  · rintro c hc
    rw [List.head?_map] at hc
    obtain ⟨d, hd, rfl⟩ := Option.map_eq_some_iff.1 hc
    exact toLower_isAlphanum (h.head d hd)
  · rintro c hc
    rw [List.getLast?_map] at hc
    obtain ⟨d, hd, rfl⟩ := Option.map_eq_some_iff.1 hc
    exact toLower_isAlphanum (h.last d hd)

/-! ## Latin spelling -/

lemma keepsCompound_snakeCase : KeepsCompound Text.snakeCase :=
  fun _ h => lower_compound (separateParts_compound h)

lemma snakeChar_toLower {c : Char} (h : c.isAlphanum = true ∨ c = '_') : SnakeChar c.toLower := by
  rcases h with h | rfl
  · exact alphanum_forall (P := fun c => c.isAlphanum = true → SnakeChar c.toLower)
      (by decide +kernel) h h
  · decide

lemma snakeCased_snakeCase : SnakeCased Text.snakeCase := by
  intro cs hcs c hc
  obtain ⟨d, hd, hc⟩ := List.mem_flatMap.1 hc
  have hd : d.isAlphanum = true ∨ d = '_' := (mem_separateParts hd).elim Or.inr (hcs d)
  rw [lower_of_compound hd, List.mem_singleton] at hc
  rw [hc]
  exact snakeChar_toLower hd

lemma caseChar_toUpper {c : Char} (h : c.isAlphanum = true ∨ c = '_') :
    CaseChar Char.isUpper c.toUpper := by
  rcases h with h | rfl
  · exact (toUpper_isUpper_or_isDigit h).imp_right Or.inl
  · exact Or.inr (Or.inr rfl)

lemma constantCased_constantCase : ConstantCased Text.constantCase where
  mem cs hcs c hc := by
    obtain ⟨d, hd, rfl⟩ := List.mem_map.1 hc
    exact caseChar_toUpper ((mem_separateParts hd).elim Or.inr (hcs d))
  ne_nil cs _ hletter := by
    obtain ⟨letter, hletter, -⟩ := hletter
    obtain ⟨c, rest, rfl⟩ := List.exists_cons_of_ne_nil (List.ne_nil_of_mem hletter)
    obtain ⟨d, parts, hparts, -⟩ := separateParts_cons c rest
    simp [Text.constantCase, hparts]

end ApiTypes.Name
