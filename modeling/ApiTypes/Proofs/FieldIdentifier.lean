import ApiTypes.Proofs.CompoundNames

/-!
# Fields as identifiers

The name of a field stands in generated code, so it must be an identifier there: a word that is no
keyword, or a keyword with the mark of raw identifiers.  Not every keyword can have that mark.
Those that a path starts with are keywords with it as well.

* `languageKeywords`, `pathKeywords` — the keywords of the language that code is generated in, and
  those of them that cannot be marked.
* `Usable` — **a name that can stand as an identifier**.
* `fieldName_usable_iff` — **a field has a usable name unless it is called like one of two
  keywords**.  Three of the keywords that cannot be marked are words in small letters; one of them
  is given another name, and the other two are marked.  All that is taken for granted is that snake
  case has small letters, digits and underscores; nothing is of how other scripts are spelled.
-/

namespace ApiTypes.Name

open Spelling (snakeCase)

/-! ## Identifiers -/

/-- The keywords of the language of the generated code: those that it uses, and those that it keeps
back. -/
def languageKeywords : List String :=
  ["as", "async", "await", "break", "const", "continue", "crate", "dyn", "else", "enum", "extern",
    "false", "fn", "for", "if", "impl", "in", "let", "loop", "match", "mod", "move", "mut", "pub",
    "ref", "return", "self", "Self", "static", "struct", "super", "trait", "true", "type", "unsafe",
    "use", "where", "while",
    "abstract", "become", "box", "do", "final", "gen", "macro", "override", "priv", "try", "typeof",
    "unsized", "virtual", "yield"]

/-- Keywords that a path can start with.  They cannot be marked as raw identifiers. -/
def pathKeywords : List String :=
  ["crate", "self", "super", "Self"]

/-- A text that has the form of an identifier in small letters.  An underscore alone has it, too. -/
def HasForm (name : String) : Prop :=
  ∃ c rest, name.toList = c :: rest ∧ (c.isLower = true ∨ c = '_') ∧ ∀ d ∈ rest, SnakeChar d

lemma HasForm.mem {name : String} (h : HasForm name) : ∀ c ∈ name.toList, SnakeChar c := by
  obtain ⟨c, rest, hlist, hc, hrest⟩ := h
  rw [hlist]
  exact List.forall_mem_cons.2 ⟨hc.imp_right Or.inr, hrest⟩

/-- A text that has the form of an identifier, in letters of one case. -/
def FormIn (isLetter : Char → Bool) (name : String) : Prop :=
  ∃ c rest, name.toList = c :: rest ∧ (isLetter c = true ∨ c = '_') ∧
    ∀ d ∈ rest, CaseChar isLetter d

section Forms

variable {isLetter : Char → Bool} {name : String}

lemma formIn_isLower : FormIn Char.isLower name ↔ HasForm name :=
  Iff.rfl

/-- The characters of a name that is spelled out, one after another. -/
lemma forall_caseChar (h : name.toList.all (fun c => decide (CaseChar isLetter c)) = true) :
    ∀ c ∈ name.toList, CaseChar isLetter c := by
  simpa using h

/-- With an underscore in front a text has the form of an identifier when its characters do. -/
lemma formIn_underscore (h : ∀ c ∈ name.toList, CaseChar isLetter c) :
    FormIn isLetter ("_" ++ name) :=
  ⟨'_', name.toList, by simp, Or.inr rfl, h⟩

lemma formIn_of_head (h : ∀ c ∈ name.toList, CaseChar isLetter c) (hne : name.isEmpty = false)
    (hdigit : startsWithDigit name = false) : FormIn isLetter name := by
  obtain ⟨c, rest, hlist⟩ := List.exists_cons_of_ne_nil
    (show name.toList ≠ [] by simpa using hne)
  rw [startsWithDigit, hlist] at hdigit
  rw [hlist] at h
  obtain ⟨hc, hrest⟩ := List.forall_mem_cons.1 h
  refine ⟨c, rest, hlist, ?_, hrest⟩
  rcases hc with hc | hc | hc
  · exact Or.inl hc
  · exact absurd hc (by simpa using hdigit)
  · exact Or.inr hc

/-- A text with its first digit guarded has the form of an identifier. -/
lemma formIn_guardDigit (h : ∀ c ∈ name.toList, CaseChar isLetter c)
    (hne : name.isEmpty = false) : FormIn isLetter (guardDigit name) := by
  rw [guardDigit]
  split
  · exact formIn_underscore h
  · rename_i hdigit
    exact formIn_of_head h hne (by simpa using hdigit)

end Forms

/-- **A name that can stand as an identifier.** -/
inductive Usable : String → Prop where
  | plain {name : String} (hform : HasForm name) (hkeyword : name ∉ languageKeywords) : Usable name
  | raw {word : String} (hword : word ∈ languageKeywords) (hpath : word ∉ pathKeywords) :
      Usable ("r#" ++ word)

/-- The language has one more keyword than those that are escaped, and that one has a capital. -/
lemma mem_languageKeywords {word : String} :
    word ∈ languageKeywords ↔ word ∈ keywords ∨ word = "Self" := by
  have hlanguage : ∀ w ∈ languageKeywords, w ∈ keywords ∨ w = "Self" := by decide +kernel
  have hkeywords : ∀ w ∈ keywords, w ∈ languageKeywords := by decide +kernel
  refine ⟨hlanguage word, ?_⟩
  rintro (h | rfl)
  · exact hkeywords word h
  · decide +kernel

lemma no_underscore_of_mem {word : String} (h : word ∈ languageKeywords) : '_' ∉ word.toList := by
  have hall : ∀ w ∈ languageKeywords, '_' ∉ w.toList := by decide +kernel
  exact hall word h

lemma usable_of_underscore {name : String} (hform : HasForm name) (h : '_' ∈ name.toList) :
    Usable name :=
  .plain hform fun hmem => no_underscore_of_mem hmem h

/-- A marked word is usable as a keyword that can be marked, and in no other way. -/
lemma usable_raw_iff {word : String} :
    Usable ("r#" ++ word) ↔ word ∈ languageKeywords ∧ word ∉ pathKeywords := by
  constructor
  · intro h
    generalize hmarked : "r#" ++ word = marked at h
    cases h with
    | plain hform _ =>
      -- the mark has a character that no plain identifier has
      have hhash : '#' ∈ marked.toList := by simp [← hmarked]
      exact absurd (hform.mem '#' hhash) (by decide)
    | raw hword hpath =>
      obtain rfl := String.append_right_inj "r#" |>.1 hmarked
      exact ⟨hword, hpath⟩
  · rintro ⟨hword, hpath⟩
    exact .raw hword hpath

/-! ## Escaped names -/

section Escaped

variable {name : String}

/-- A name that is spelled out and has an underscore in it is usable when its characters are. -/
lemma usable_of_checked
    (hchars : name.toList.all (fun c => decide (CaseChar Char.isLower c)) = true)
    (hdigit : startsWithDigit name = false) (hunderscore : '_' ∈ name.toList) : Usable name := by
  have hne : name.isEmpty = false := by
    rw [String.isEmpty_eq_false_iff]
    rintro rfl
    cases hunderscore
  have hform := formIn_of_head (forall_caseChar hchars) hne hdigit
  exact usable_of_underscore (formIn_isLower.1 hform) hunderscore

lemma not_mem_languageKeywords (h : ∀ c ∈ name.toList, SnakeChar c) (hkeyword : name ∉ keywords) :
    name ∉ languageKeywords := by
  rw [mem_languageKeywords]
  rintro (hmem | rfl)
  · exact hkeyword hmem
  · exact absurd (h 'S' (by decide)) (by decide)

lemma isKeyword_iff : isKeyword name = true ↔ name ∈ keywords := by
  simp [isKeyword]

/-- A name does not become a keyword by guarding its digit. -/
lemma guardDigit_not_mem_keywords (hkeyword : name ∉ keywords) : guardDigit name ∉ keywords := by
  rw [guardDigit]
  split
  · exact fun hmem => no_underscore_of_mem (mem_languageKeywords.2 (Or.inl hmem)) (by simp)
  · exact hkeyword

/-- A name that is no keyword is usable when an underscore guards its digit. -/
lemma usable_guardDigit (h : ∀ c ∈ name.toList, SnakeChar c) (hne : name.isEmpty = false)
    (hkeyword : name ∉ keywords) : Usable (guardDigit name) := by
  have hform : HasForm (guardDigit name) := formIn_isLower.1 (formIn_guardDigit h hne)
  exact .plain hform
    (not_mem_languageKeywords hform.mem (guardDigit_not_mem_keywords hkeyword))

/-- Two of the keywords that are marked cannot have the mark. -/
lemma usable_marked_iff (hkeyword : name ∈ keywords) (hself : name ≠ "self") :
    Usable ("r#" ++ name) ↔ name ≠ "crate" ∧ name ≠ "super" := by
  have hSelf : name ≠ "Self" := by
    rintro rfl
    exact absurd hkeyword (by decide +kernel)
  rw [usable_raw_iff, mem_languageKeywords]
  simp [pathKeywords, hkeyword, hself, hSelf]

/-- **Escaping makes a name usable**, but for the two keywords that should not be marked. -/
lemma usable_escaped_iff (h : ∀ c ∈ name.toList, SnakeChar c) :
    Usable (escaped name) ↔ name ≠ "crate" ∧ name ≠ "super" := by
  rw [escaped]
  split
  · rename_i hempty
    obtain rfl : name = "" := by simpa using hempty
    exact iff_of_true (usable_of_checked (by decide) (by decide) (by decide)) (by decide)
  split
  · rename_i href
    subst href
    exact iff_of_true (usable_of_checked (by decide) (by decide) (by decide)) (by decide)
  split
  · rename_i hself
    subst hself
    exact iff_of_true (usable_of_checked (by decide) (by decide) (by decide)) (by decide)
  rename_i hempty _ hself
  by_cases hkeyword : name ∈ keywords
  · rw [if_pos (isKeyword_iff.2 hkeyword)]
    exact usable_marked_iff hkeyword hself
  · rw [if_neg (isKeyword_iff.not.2 hkeyword)]
    have hne : ∀ w ∈ keywords, name ≠ w := fun w hw hname => hkeyword (hname ▸ hw)
    exact iff_of_true (usable_guardDigit h (by simpa using hempty) hkeyword)
      ⟨hne _ (by decide +kernel), hne _ (by decide +kernel)⟩

end Escaped

/-! ## Fields -/

section Fields

variable [Spelling]

lemma stem_snakeChar (hsnake : SnakeCased snakeCase) (s : String) :
    ∀ c ∈ (stem s).toList, SnakeChar c := by
  rw [stem, String.toList_ofList]
  exact hsnake _ (sanitizeChars_compound _).mem

/-- **The name of a field can stand as an identifier**, unless it is one of two keywords in snake
case. -/
theorem fieldName_usable_iff (hsnake : SnakeCased snakeCase) (s : String) :
    Usable (fieldName s) ↔ stem s ≠ "crate" ∧ stem s ≠ "super" :=
  usable_escaped_iff (stem_snakeChar hsnake s)

end Fields

/-- A keyword with a capital and accents, and hyphens around it. -/
theorem type_fieldName_usable :
    SnakeCased snakeCase ∧ fieldName "-Týpé-" = "r#type" ∧ Usable (fieldName "-Týpé-") :=
  ⟨snakeCased_snakeCase, by decide +kernel,
    (fieldName_usable_iff snakeCased_snakeCase "-Týpé-").2
      ⟨by decide +kernel, by decide +kernel⟩⟩

/-- A field that is called like a keyword that paths start with cannot be written. -/
theorem not_usable_crate : ¬ Usable (fieldName "crate") := by
  have hname : fieldName "crate" = "r#" ++ "crate" := by decide +kernel
  rw [hname, usable_raw_iff]
  decide +kernel

end ApiTypes.Name
