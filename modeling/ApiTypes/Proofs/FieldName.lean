import ApiTypes.Proofs.CompoundNames

/-!
# When names have the same field

The name of a field is a compound name in snake case that is escaped when it cannot stand as it is:
when it is empty, a keyword, or begins with a digit.  Escaping can be undone.  The marks that it
adds, an underscore at one end or a hash, never stand there in a compound name.  But one keyword is
not marked: it is replaced by a name that is a compound name itself, so that the two clash.

* `recovered` — what a name was before it was escaped.
* `stem_compound` — the names that are escaped are compound names, if snake case keeps them so.
* `fieldName_eq_iff` — **names have the same field when they are the same in snake case**, and in
  one other case.
-/

namespace ApiTypes.Name

open Spelling (snakeCase)

/-! ## Escaped names -/

/-- What a name was before it was escaped, by the marks that it has. -/
def recovered : List Char → List Char
  | ['_'] => []
  | ['s', 'e', 'l', 'f', '_'] => ['s', 'e', 'l', 'f']
  | 'r' :: '#' :: rest => rest
  | '_' :: rest => rest
  | cs => cs

/-- A compound name has no marks. -/
lemma recovered_of_compound {cs : List Char} (h : Compound cs) : recovered cs = cs := by
  rw [recovered.eq_def]
  split
  · exact absurd (h.head '_' rfl) (by decide)
  · exact absurd (h.last '_' rfl) (by decide)
  · exact absurd (h.mem '#' (by simp)) (by decide)
  · exact absurd (h.head '_' rfl) (by decide)
  · rfl

/-- **Escaping can be undone**, but for one keyword. -/
lemma recovered_escaped {name : String} (h : Compound name.toList) :
    recovered (escaped name).toList = if name = "ref" then "git_ref".toList else name.toList := by
  rw [escaped]
  split
  · rename_i hempty
    obtain rfl : name = "" := by simpa using hempty
    decide +kernel
  split
  · decide +kernel
  split
  · rename_i hself
    subst hself
    decide +kernel
  split
  · rw [String.toList_append]
    rfl
  rw [guardDigit]
  split
  · rename_i hnotEmpty _ _ _ hdigit
    obtain ⟨c, cs, hname⟩ := List.exists_cons_of_ne_nil
      (show name.toList ≠ [] by simpa using hnotEmpty)
    rw [String.toList_append, hname]
    rfl
  · exact recovered_of_compound h

/-! ## Names with the same field -/

variable [Spelling]

lemma stem_compound (hsnake : KeepsCompound snakeCase) (s : String) :
    Compound (stem s).toList := by
  rw [stem, String.toList_ofList]
  exact hsnake _ (sanitizeChars_compound _)

/-- **Names that clash**: they are the same in snake case, or one of them is the keyword that is
replaced and the other one what replaces it. -/
def Clash (a b : String) : Prop :=
  stem a = stem b ∨ (stem a = "ref" ∧ stem b = "git_ref") ∨
    (stem a = "git_ref" ∧ stem b = "ref")

instance (a b : String) : Decidable (Clash a b) :=
  inferInstanceAs (Decidable (_ ∨ _))

/-- **Names have the same field just when they clash.** -/
theorem fieldName_eq_iff (hsnake : KeepsCompound snakeCase) (a b : String) :
    fieldName a = fieldName b ↔ Clash a b := by
  rw [fieldName, fieldName]
  constructor
  · intro h
    have hrecovered := congrArg (fun name : String => recovered name.toList) h
    simp only [recovered_escaped (stem_compound hsnake _)] at hrecovered
    by_cases ha : stem a = "ref" <;> by_cases hb : stem b = "ref"
    · exact Or.inl (ha.trans hb.symm)
    · rw [if_pos ha, if_neg hb] at hrecovered
      exact Or.inr (Or.inl ⟨ha, (String.toList_inj.1 hrecovered).symm⟩)
    · rw [if_neg ha, if_pos hb] at hrecovered
      exact Or.inr (Or.inr ⟨String.toList_inj.1 hrecovered, hb⟩)
    · rw [if_neg ha, if_neg hb] at hrecovered
      exact Or.inl (String.toList_inj.1 hrecovered)
  · rintro (h | ⟨ha, hb⟩ | ⟨ha, hb⟩)
    · rw [h]
    · rw [ha, hb]
      decide +kernel
    · rw [ha, hb]
      decide +kernel

end ApiTypes.Name
