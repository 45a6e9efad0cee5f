import ApiTypes.Proofs.CompoundNames

/-!
# Stable names

Names are given out, compared with what is taken, and fed back: a class name that is changed later
is made into a class name again.  So it must be legal, and it must come out as it went in.  None of
this rests on how the letters of other scripts are spelled, only on ASCII being left as it is.

* `runs_append_joint` — **words end at every joint**.  That words joined by underscores are the
  words again, `runs_intercalate`, follows from this one equation.
* `sanitize_eq` — joining the words is what a rewriting of the text in three steps comes to.
* `Stable`, `modelName_stable` — all that is promised of the names made from one text.
-/

namespace ApiTypes.Name

open Spelling (spelled)
open Text (trimStart trimEnd)

/-! ## Words and joints -/

lemma splitWords_append_joint {c : Char} (hc : ¬ c.isAlphanum) (xs ys : List Char) :
    splitWords (xs ++ c :: ys) = ((splitWords xs).1, (splitWords xs).2 ++ runs ys) := by
  induction xs with
  | nil => simp [splitWords, runs, hc]
  | cons x xs ih =>
    rw [List.cons_append, splitWords, splitWords, ih]
    by_cases hx : x.isAlphanum
    · simp [hx]
    · by_cases he : (splitWords xs).1 = [] <;> simp [hx, he]

/-- **Words end at every joint**, whatever stands before and behind it. -/
lemma runs_append_joint {c : Char} (hc : ¬ c.isAlphanum) (xs ys : List Char) :
    runs (xs ++ c :: ys) = runs xs ++ runs ys := by
  rw [runs, splitWords_append_joint hc, runs.eq_def xs]
  by_cases he : (splitWords xs).1 = [] <;> simp [he]

/-- Words that are joined by underscores can be read off again. -/
lemma runs_intercalate {ws : List (List Char)} (h : ∀ w ∈ ws, w ≠ [] ∧ ∀ c ∈ w, c.isAlphanum) :
    runs (['_'].intercalate ws) = ws := by
  induction ws with
  | nil => rfl
  | cons w ws ih =>
    obtain ⟨⟨hne, hw⟩, hws⟩ := List.forall_mem_cons.1 h
    cases ws with
    | nil => rw [List.intercalate_singleton, runs_of_alphanum hne hw]
    | cons next ws =>
      rw [List.intercalate_cons_cons, List.append_assoc, List.singleton_append,
        runs_append_joint (by decide), runs_of_alphanum hne hw, ih hws]
      rfl

/-! ## The steps of making a name safe -/

/-- A text with an underscore in place of each longest run of characters of a class.  Of a run that
the text is inside of at its start nothing is left. -/
def underscoreRuns (p : Char → Bool) : (inside : Bool) → List Char → List Char
  | _, [] => []
  | inside, c :: cs =>
    if p c then (if inside then [] else ['_']) ++ underscoreRuns p true cs
    else c :: underscoreRuns p false cs

/-- Whether a character may not stand in a name. -/
def isInvalid (c : Char) : Bool :=
  !(c.isAlphanum || c = '_')

/-- Whether a character ends a word. -/
def endsWord (c : Char) : Bool :=
  !c.isAlphanum

lemma ne_underscore_of_alphanum {c : Char} (h : c.isAlphanum = true) : c ≠ '_' := by
  rintro rfl
  exact absurd h (by decide)

/-- Replacing runs of invalid characters and then runs of underscores is replacing what ends a word
in one go. -/
lemma underscoreRuns_isInvalid {inside inside' : Bool} (h : inside = true → inside' = true)
    (cs : List Char) :
    underscoreRuns (· = '_') inside' (underscoreRuns isInvalid inside cs) =
      underscoreRuns endsWord inside' cs := by
  induction cs generalizing inside inside' with
  | nil => rfl
  | cons c cs ih =>
    by_cases hc : c.isAlphanum
    · have hne : c ≠ '_' := ne_underscore_of_alphanum hc
      simp [underscoreRuns, isInvalid, endsWord, hc, hne, ih]
    by_cases hu : c = '_'
    · subst hu
      simp [underscoreRuns, isInvalid, endsWord, ih]
    · cases inside with
      | true => simp [underscoreRuns, isInvalid, endsWord, hc, hu, h rfl, ih]
      | false => simp [underscoreRuns, isInvalid, endsWord, hc, hu, ih]

lemma trimEnd_cons (p : Char → Bool) (c : Char) (cs : List Char) :
    trimEnd p (c :: cs) = if p c ∧ trimEnd p cs = [] then [] else c :: trimEnd p cs := by
  rw [trimEnd, List.reverse_cons, List.dropWhile_append]
  by_cases hc : p c <;> by_cases he : cs.reverse.dropWhile p = [] <;> simp [trimEnd, hc, he]

lemma cons_intercalate (c : Char) (w : List Char) (ws : List (List Char)) :
    c :: ['_'].intercalate (w :: ws) = ['_'].intercalate ((c :: w) :: ws) := by
  cases ws <;> simp [List.intercalate_cons_cons]

/-- Without the underscores at its end, such a text is its words, joined by underscores.  Outside of
a run it goes on with a word, that may be empty. -/
lemma trimEnd_underscoreRuns (cs : List Char) :
    trimEnd (· = '_') (underscoreRuns endsWord true cs) = ['_'].intercalate (runs cs) ∧
      trimEnd (· = '_') (underscoreRuns endsWord false cs) =
        ['_'].intercalate ((splitWords cs).1 :: (splitWords cs).2) := by
  induction cs with
  | nil => decide
  | cons c cs ih =>
    obtain ⟨hinside, houtside⟩ := ih
    by_cases hc : c.isAlphanum
    · have hne : c ≠ '_' := ne_underscore_of_alphanum hc
      have hword : trimEnd (· = '_') (c :: underscoreRuns endsWord false cs) =
          ['_'].intercalate ((c :: (splitWords cs).1) :: (splitWords cs).2) := by
        rw [trimEnd_cons, houtside, cons_intercalate]
        simp [hne]
      simp [underscoreRuns, endsWord, runs, splitWords, hc, hword]
    · have hsplit : splitWords (c :: cs) = ([], runs cs) := by simp [splitWords, runs, hc]
      refine ⟨by simpa [underscoreRuns, endsWord, hc, runs, hsplit] using hinside, ?_⟩
      have hjoint : underscoreRuns endsWord false (c :: cs) =
          '_' :: underscoreRuns endsWord true cs := by simp [underscoreRuns, endsWord, hc]
      rw [hjoint, trimEnd_cons, hinside, hsplit]
      cases hruns : runs cs with
      | nil => rfl
      | cons w ws =>
        obtain ⟨d, ds, rfl⟩ := List.exists_cons_of_ne_nil
          (mem_runs (hruns ▸ List.mem_cons_self : w ∈ runs cs)).1
        simp [List.intercalate_cons_cons]

/-- No underscore comes first inside of a run, and one at most comes first outside. -/
lemma trimStart_underscoreRuns (inside : Bool) (cs : List Char) :
    trimStart (· = '_') (underscoreRuns endsWord inside cs) = underscoreRuns endsWord true cs := by
  induction cs generalizing inside with
  | nil => rfl
  | cons c cs ih =>
    by_cases hc : c.isAlphanum
    · have hne : c ≠ '_' := ne_underscore_of_alphanum hc
      simp [trimStart, underscoreRuns, endsWord, hc, hne]
    · have ih : (underscoreRuns endsWord true cs).dropWhile (· = '_') =
          underscoreRuns endsWord true cs := ih true
      cases inside <;> simp [trimStart, underscoreRuns, endsWord, hc, ih]

/-- **Joining the words is rewriting the text**: runs of invalid characters become underscores, runs
of underscores become one, and those at both ends are taken off. -/
theorem sanitize_eq [Spelling] (s : String) :
    sanitize s = String.ofList (trimEnd (· = '_') (trimStart (· = '_')
      (underscoreRuns (· = '_') false (underscoreRuns isInvalid false (spelled s.toList))))) := by
  rw [underscoreRuns_isInvalid id, trimStart_underscoreRuns, (trimEnd_underscoreRuns _).1,
    sanitize, sanitizeChars, words]

/-! ## Names that are fed back -/

section FedBack

variable [AsciiSpelling]

/-- A text made safe has the words that it was made from. -/
lemma words_sanitizeChars (cs : List Char) : words (sanitizeChars cs) = words cs := by
  have hascii : ∀ c ∈ sanitizeChars cs, c.toNat < 0x80 :=
    fun c hc => ascii_of_compound ((sanitizeChars_compound cs).mem c hc)
  rw [words_of_ascii hascii, sanitizeChars, runs_intercalate fun _ => mem_words]

/-- A name in camel case is left as it is. -/
lemma camelize_camelize (s : String) : camelize (camelize s) = camelize s := by
  cases hcs : (camelize s).toList with
  | nil =>
    have hempty : camelize s = "" := by simpa using hcs
    have hwords : words [] = [] := words_of_ascii (by simp)
    rw [hempty, camelize, String.toList_empty, camelizeChars, hwords]
    rfl
  | cons c rest =>
    have hrest : ∀ d ∈ rest, d.isAlphanum :=
      (List.forall_mem_cons.1 (hcs ▸ camelize_alphanum s)).2
    have hhead : c.isUpper ∨ c.isDigit := by
      rw [camelize, String.toList_ofList] at hcs
      exact camelizeChars_head hcs
    exact camelize_of_word hcs hhead hrest

lemma sanitize_sanitize (s : String) : sanitize (sanitize s) = sanitize s := by
  rw [sanitize, sanitize, String.toList_ofList, sanitizeChars.eq_def (sanitizeChars _),
    words_sanitizeChars, ← sanitizeChars]

lemma camelize_sanitize (s : String) : camelize (sanitize s) = camelize s := by
  rw [camelize, sanitize, String.toList_ofList, camelizeChars, words_sanitizeChars, camelize,
    camelizeChars]

end FedBack

/-! ## Why a name was escaped -/

/-- What is wrong with the name in camel case is what is told of the class name; nothing is wrong
with a name without words. -/
lemma adjustment_modelName [Spelling] (s : String) :
    (modelName s).adjustment = adjustmentOf (camelize s) := by
  rw [modelName, ModelName.ofCamelized]
  by_cases hempty : (camelize s).isEmpty
  · have hname : camelize s = "" := by simpa using hempty
    rw [hname]
    decide +kernel
  · simp only [hempty]
    cases adjustmentOf (camelize s) <;> rfl

lemma adjustmentOf_eq_reserved {name : String} :
    adjustmentOf name = some .reserved ↔ isReservedTypeName name = true := by
  rw [adjustmentOf]
  cases isReservedTypeName name <;> cases startsWithDigit name <;> simp

lemma adjustmentOf_eq_digitLeading {name : String} :
    adjustmentOf name = some .digitLeading ↔
      isReservedTypeName name = false ∧ startsWithDigit name = true := by
  rw [adjustmentOf]
  cases isReservedTypeName name <;> cases startsWithDigit name <;> simp

/-! ## What is promised of a name -/

/-- **What is promised of the names made from a text.** -/
structure Stable [Spelling] (s : String) : Prop where
  /-- The class name is a capital followed by letters and digits, and it is not reserved. -/
  legal : Legal (modelName s).className
  /-- It stays legal when it is numbered. -/
  numbered : ∀ digits : String, (∀ c ∈ digits.toList, c.isDigit) →
    Legal ((modelName s).className ++ digits)
  /-- It is its own class name, without an escape. -/
  fixed : modelName (modelName s).className = ⟨(modelName s).className, none⟩
  /-- The escape that is told says what is wrong with the name in camel case, and a reserved name is
  told as such first. -/
  reserved_iff : (modelName s).adjustment = some .reserved ↔
    isReservedTypeName (camelize s) = true
  digitLeading_iff : (modelName s).adjustment = some .digitLeading ↔
    isReservedTypeName (camelize s) = false ∧ startsWithDigit (camelize s) = true
  camelize_camelize : camelize (camelize s) = camelize s
  sanitize_sanitize : sanitize (sanitize s) = sanitize s
  camelize_sanitize : camelize (sanitize s) = camelize s

/-- **Names are stable**, in any script and by any spelling that leaves ASCII as it is. -/
theorem modelName_stable [AsciiSpelling] (s : String) : Stable s := by
  have hlegal : Legal (modelName s).className := className_legal s
  constructor
  case legal => exact hlegal
  case numbered => exact fun digits hdigits => hlegal.append_digits hdigits
  case fixed => exact modelName_of_legal hlegal
  case reserved_iff => rw [adjustment_modelName, adjustmentOf_eq_reserved]
  case digitLeading_iff => rw [adjustment_modelName, adjustmentOf_eq_digitLeading]
  case camelize_camelize => exact Name.camelize_camelize s
  case sanitize_sanitize => exact Name.sanitize_sanitize s
  case camelize_sanitize => exact Name.camelize_sanitize s

/-- A name in another script that starts with a digit, and one that is reserved. -/
theorem sizes_modelName_stable :
    modelName "2. Größe" = ⟨"Model2Grosse", some .digitLeading⟩ ∧ Stable "2. Größe" ∧
      modelName "hash-map" = ⟨"ModelHashMap", some .reserved⟩ ∧ Stable "hash-map" :=
  ⟨by decide +kernel, modelName_stable _, by decide +kernel, modelName_stable _⟩

end ApiTypes.Name
