import ApiTypes.Proofs.FieldIdentifier

/-!
# Methods and variants as identifiers

The method of an operation and the variant of an enum value stand in generated code without a mark,
so that their names must be identifiers as they are: a method has small letters and is no keyword,
a variant has capitals, and no keyword has those.

* `Unmarked` — **names of a method and of a variant that can stand as they are.**
* `hasForm_called`, `formIn_variantName` — each of the names has the form of an identifier.
* `unmarked_names` — **methods and variants can be named after any text**, if snake case and
  constant case have letters of their own case, digits and underscores.
-/

namespace ApiTypes.Name

open Spelling (snakeCase constantCase)

/-- **Names that can stand without a mark**, of a method and of a variant. -/
structure Unmarked (method variant : String) : Prop where
  method_form : HasForm method
  method_not_mem : method ∉ keywords
  variant_form : FormIn Char.isUpper variant

/-! ## Methods -/

section Called

variable {name : String}

/-- A keyword that is called has the form of an identifier. -/
lemma hasForm_call (h : ∀ c ∈ name.toList, SnakeChar c) : HasForm ("call_" ++ name) := by
  refine ⟨'c', "all_".toList ++ name.toList, by simp, Or.inl rfl, fun d hd => ?_⟩
  have hcall : ∀ d ∈ "all_".toList, SnakeChar d := forall_caseChar (by decide)
  exact (List.mem_append.1 hd).elim (hcall d) (h d)

lemma hasForm_called (h : ∀ c ∈ name.toList, SnakeChar c) : HasForm (called name) := by
  rw [called]
  split
  · exact formIn_of_head (forall_caseChar (by decide)) rfl rfl
  · rename_i hne
    split
    · exact hasForm_call h
    · exact formIn_guardDigit h (by simpa using hne)

/-- **No method is called like a keyword.** -/
lemma called_not_mem_keywords (name : String) : called name ∉ keywords := by
  rw [called]
  split
  · decide +kernel
  split
  · exact fun hmem => no_underscore_of_mem (mem_languageKeywords.2 (Or.inl hmem)) (by simp)
  · rename_i hkeyword
    exact guardDigit_not_mem_keywords (isKeyword_iff.not.1 hkeyword)

end Called

/-! ## Methods and variants -/

section Names

variable [Spelling]

lemma formIn_variantName (hconstant : ConstantCased constantCase) (s : String) :
    FormIn Char.isUpper (variantName s) := by
  have hsafe := sanitizeChars_compound s.toList
  rw [variantName]
  split
  · exact formIn_of_head (forall_caseChar (by decide)) rfl rfl
  · rename_i hempty
    obtain ⟨c, rest, hlist⟩ := List.exists_cons_of_ne_nil
      (show sanitizeChars s.toList ≠ [] by simpa using hempty)
    have hletter : ∃ c ∈ sanitizeChars s.toList, c.isAlphanum = true :=
      ⟨c, by simp [hlist], hsafe.head c (by simp [hlist])⟩
    refine formIn_guardDigit ?_ ?_
    · rw [String.toList_ofList]
      exact hconstant.mem _ hsafe.mem
    · simpa using hconstant.ne_nil _ hsafe.mem hletter

/-- **Methods and variants can be named after any text.** -/
theorem unmarked_names (hsnake : SnakeCased snakeCase) (hconstant : ConstantCased constantCase)
    (s : String) : Unmarked (methodName s) (variantName s) where
  method_form := hasForm_called (stem_snakeChar hsnake s)
  method_not_mem := called_not_mem_keywords _
  variant_form := formIn_variantName hconstant s

end Names

/-- A keyword with a capital and accents, and a name that starts with a digit in its spelling. -/
theorem become_unmarked_names :
    SnakeCased snakeCase ∧ ConstantCased constantCase ∧
      methodName "Béçome" = "call_become" ∧ variantName "½ off" = "_1_2_OFF" ∧
      Unmarked (methodName "Béçome") (variantName "Béçome") ∧
      Unmarked (methodName "½ off") (variantName "½ off") :=
  ⟨snakeCased_snakeCase, constantCased_constantCase, by decide +kernel, by decide +kernel,
    unmarked_names snakeCased_snakeCase constantCased_constantCase "Béçome",
    unmarked_names snakeCased_snakeCase constantCased_constantCase "½ off"⟩

end ApiTypes.Name
