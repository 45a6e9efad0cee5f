import ApiTypes.Json.Printer
import ApiTypes.Json.Token
import Mathlib.Data.List.Basic
import Mathlib.Tactic.IntervalCases
import Mathlib.Tactic.Lemma

/-!
# The tokens of written values

The written form of a value is divided into just the tokens that it was written with, on one line
and over several lines alike.  No token takes characters from what stands behind it: a string ends
at its closing quote, a word with its last letter, and a numeral before anything that is no digit,
point or exponent.

* `Json.Readable` — values that are written without loss: all their numbers are whole, and fit a
  word.
* `Json.tokens` — the tokens of a value.
* `Scans` — a text and its tokens, however many steps are allowed beyond its length.
* `Scans.string`, `Scans.int` — strings and whole numbers are read as they were written.
* `written_array`, `written_object` — containers of any layout.
* `written_compact`, `written_pretty`, `scan_of_readable` — **the tokens of a written value.**
-/

namespace ApiTypes.Json

open Source (Scalar)

/-- **A value that is written without loss**: all its numbers are whole, and fit a word. -/
inductive Readable : Json → Prop where
  | null : Readable .null
  | bool (value : Bool) : Readable (.bool value)
  | int {value : Int} (h : Scalar.fitsWord value = true) : Readable (.number (.int value))
  | string (text : String) : Readable (.string text)
  | array {items : List Json} (h : ∀ item ∈ items, Readable item) : Readable (.array items)
  | object {members : List (String × Json)} (h : ∀ e ∈ members, Readable e.2) :
      Readable (.object members)

mutual

/-- The tokens of a value. -/
def tokens : Json → List Token
  | .null => [.scalar .null]
  | .bool value => [.scalar (.bool value)]
  | .number value => [.scalar (.number value)]
  | .string text => [.scalar (.string text)]
  | .array [] => [.openArray, .closeArray]
  | .array (item :: items) => .openArray :: tokens item ++ itemTokens items ++ [.closeArray]
  | .object [] => [.openObject, .closeObject]
  | .object ((name, value) :: members) =>
    .openObject :: .scalar (.string name) :: .colon :: tokens value ++ memberTokens members ++
      [.closeObject]

/-- The tokens of the items after the first one. -/
def itemTokens : List Json → List Token
  | [] => []
  | item :: items => .comma :: tokens item ++ itemTokens items

/-- The tokens of the members after the first one. -/
def memberTokens : List (String × Json) → List Token
  | [] => []
  | (name, value) :: members =>
    .comma :: .scalar (.string name) :: .colon :: tokens value ++ memberTokens members

end

/-! ## Scanning -/

/-- A text has the given tokens, however many steps are allowed beyond its length. -/
def Scans (cs : List Char) (ts : List Token) : Prop :=
  ∀ steps, cs.length ≤ steps → scanSteps steps cs = ts

variable {cs rest after : List Char} {ts : List Token} {t : Token} {c : Char}

lemma scans_nil : Scans [] [] := by
  intro steps _
  cases steps <;> rfl

lemma Scans.scan (h : Scans cs ts) : Token.scan cs = ts :=
  h _ le_rfl

/-- A token and what stands behind it. -/
lemma Scans.token (hspace : isSpace c = false) (h : scanToken c rest = (t, after))
    (hlength : after.length ≤ rest.length) (hafter : Scans after ts) :
    Scans (c :: rest) (t :: ts) := by
  intro steps hsteps
  obtain ⟨steps, rfl⟩ : ∃ n, steps = n + 1 := ⟨steps - 1, by simp at hsteps; omega⟩
  have hbehind : after.length ≤ steps := by
    simp only [List.length_cons] at hsteps
    omega
  simp only [scanSteps, hspace, h, hafter steps hbehind]
  rfl

lemma Scans.space (hspace : isSpace c = true) (h : Scans cs ts) : Scans (c :: cs) ts := by
  intro steps hsteps
  obtain ⟨steps, rfl⟩ : ∃ n, steps = n + 1 := ⟨steps - 1, by simp at hsteps; omega⟩
  simp only [scanSteps, hspace, if_true]
  exact h steps (by simpa using hsteps)

/-- A text of characters that may stand between tokens. -/
def Blank (cs : List Char) : Prop :=
  ∀ c ∈ cs, isSpace c = true

lemma blank_nil : Blank [] := by
  simp [Blank]

lemma blank_newLine (level : Nat) : Blank (newLine level) := by
  intro c hc
  rcases List.mem_cons.1 hc with rfl | hc
  · rfl
  · rw [List.eq_of_mem_replicate hc]
    rfl

lemma Scans.blank {gap : List Char} (hgap : Blank gap) (h : Scans cs ts) :
    Scans (gap ++ cs) ts := by
  induction gap with
  | nil => exact h
  | cons c gap ih =>
    obtain ⟨hspace, hgap⟩ := List.forall_mem_cons.1 hgap
    exact .space hspace (ih hgap)

section

variable (h : Scans rest ts)
include h

lemma Scans.comma : Scans (',' :: rest) (.comma :: ts) :=
  .token rfl rfl le_rfl h

lemma Scans.colon : Scans (':' :: rest) (.colon :: ts) :=
  .token rfl rfl le_rfl h

lemma Scans.openArray : Scans ('[' :: rest) (.openArray :: ts) :=
  .token rfl rfl le_rfl h

lemma Scans.closeArray : Scans (']' :: rest) (.closeArray :: ts) :=
  .token rfl rfl le_rfl h

lemma Scans.openObject : Scans ('\x7b' :: rest) (.openObject :: ts) :=
  .token rfl rfl le_rfl h

lemma Scans.closeObject : Scans ('\x7d' :: rest) (.closeObject :: ts) :=
  .token rfl rfl le_rfl h

/-! ### Words -/

lemma Scans.null : Scans ('n' :: 'u' :: 'l' :: 'l' :: rest) (.scalar .null :: ts) :=
  .token rfl rfl (by simp; omega) h

lemma Scans.true : Scans ('t' :: 'r' :: 'u' :: 'e' :: rest) (.scalar (.bool true) :: ts) :=
  .token rfl rfl (by simp; omega) h

lemma Scans.false : Scans ('f' :: 'a' :: 'l' :: 's' :: 'e' :: rest) (.scalar (.bool false) :: ts) :=
  .token rfl rfl (by simp; omega) h

end

/-! ### Strings -/

lemma hexValue?_digitChar {n : Nat} (h : n < 16) : hexValue? (Nat.digitChar n) = some n := by
  interval_cases n <;> rfl

lemma hexFour?_of_lt {high low : Nat} (hhigh : high < 16) (hlow : low < 16) :
    hexFour? ('0' :: '0' :: Nat.digitChar high :: Nat.digitChar low :: rest) =
      some (16 * high + low, rest) := by
  have hzero : hexValue? '0' = some 0 := rfl
  simp [hexFour?, hzero, hexValue?_digitChar hhigh, hexValue?_digitChar hlow]

section

variable {seen : List Char}

lemma scanString_escape {c d : Char} (hcode : c ≠ 'u') (h : escapeOf? c = some d) :
    scanString none seen ('\\' :: c :: rest) = scanString none (d :: seen) rest := by
  rw [scanString]
  · simp [h]
  · exact hcode

lemma scanString_code {digits : List Char} {n : Nat} (h : hexFour? digits = some (n, rest))
    (hsmall : n < 0xD800) :
    scanString none seen ('\\' :: 'u' :: digits) = scanString none (Char.ofNat n :: seen) rest := by
  have hlow : isLowSurrogate n = false := by
    simp [isLowSurrogate]
    omega
  have hhigh : isHighSurrogate n = false := by
    simp [isHighSurrogate]
    omega
  rw [scanString]
  split
  · rename_i hnone
    rw [h] at hnone
    cases hnone
  · rename_i hsome
    rw [h] at hsome
    cases hsome
    simp [hlow, hhigh]

lemma scanString_plain (hquote : c ≠ '"') (hbackslash : c ≠ '\\') (hcontrol : ¬ c.toNat < 0x20) :
    scanString none seen (c :: rest) = scanString none (c :: seen) rest := by
  rw [scanString]
  · simp [hcontrol]
  all_goals simp [hquote, hbackslash]

end

/-- A character inside a string is read as it was written. -/
lemma scanString_escapedChar (seen : List Char) (c : Char) (rest : List Char) :
    scanString none seen (escapedChar c ++ rest) = scanString none (c :: seen) rest := by
  have hletter : ∀ (letter : Char) (code : Nat), letter ≠ 'u' →
      escapeOf? letter = some (Char.ofNat code) → c.toNat = code →
      scanString none seen ('\\' :: letter :: rest) = scanString none (c :: seen) rest := by
    intro letter code hcode hescape heq
    rw [scanString_escape hcode hescape, ← heq, Char.ofNat_toNat]
  have hcontrol : ∀ high low : Nat, high < 16 → low < 16 → c.toNat = 16 * high + low →
      scanString none seen ('\\' :: 'u' :: '0' :: '0' :: Nat.digitChar high ::
        Nat.digitChar low :: rest) = scanString none (c :: seen) rest := by
    intro high low hhigh hlow heq
    rw [scanString_code (hexFour?_of_lt hhigh hlow) (by omega), ← heq, Char.ofNat_toNat]
  rw [escapedChar]
  split_ifs with hquote hbackslash hb ht hn hf hr hlow hhigh
  · exact hletter '"' 0x22 (by decide) rfl (by rw [hquote]; rfl)
  · exact hletter '\\' 0x5C (by decide) rfl (by rw [hbackslash]; rfl)
  · exact hletter 'b' _ (by decide) rfl hb
  · exact hletter 't' _ (by decide) rfl ht
  · exact hletter 'n' _ (by decide) rfl hn
  · exact hletter 'f' _ (by decide) rfl hf
  · exact hletter 'r' _ (by decide) rfl hr
  · exact hcontrol 0 c.toNat (by omega) hlow (by omega)
  · exact hcontrol 1 (c.toNat - 0x10) (by omega) (by omega) (by omega)
  · exact scanString_plain hquote hbackslash hhigh

/-- **A string is read as it was written.** -/
lemma scanString_text (text seen rest : List Char) :
    scanString none seen (text.flatMap escapedChar ++ '"' :: rest) =
      ⟨.ok (seen.reverse ++ text), .ok rest⟩ := by
  induction text generalizing seen with
  | nil => simp [scanString]
  | cons c text ih =>
    rw [List.flatMap_cons, List.append_assoc, scanString_escapedChar, ih]
    simp

lemma Scans.string (text : String) (h : Scans rest ts) :
    Scans (stringChars text ++ rest) (.scalar (.string text) :: ts) := by
  rw [stringChars, List.append_assoc, List.cons_append]
  refine .token rfl ?_ ?_ h
  · simp [scanToken, scanString_text]
  · simp only [List.length_append, List.length_cons]
    omega

/-! ### Whole numbers -/

/-- A text that does not go on with a numeral. -/
def Ends (cs : List Char) : Prop :=
  ∀ c ∈ cs.head?, c.isDigit = false ∧ c ≠ '.' ∧ c ≠ 'e' ∧ c ≠ 'E'

lemma ends_nil : Ends [] := by
  simp [Ends]

lemma ends_cons (h : c ∈ [',', ']', '\x7d', ' ', '\n', '\t', '\r']) : Ends (c :: cs) := by
  have hall : ∀ c ∈ [',', ']', '\x7d', ' ', '\n', '\t', '\r'],
      c.isDigit = false ∧ c ≠ '.' ∧ c ≠ 'e' ∧ c ≠ 'E' := by simp
  simpa [Ends] using hall c h

lemma Ends.blank {gap : List Char} (hgap : Blank gap) (h : Ends cs) : Ends (gap ++ cs) := by
  cases gap with
  | nil => exact h
  | cons c gap =>
    have hspace := hgap c List.mem_cons_self
    refine ends_cons ?_
    simp only [isSpace, Bool.or_eq_true, decide_eq_true_eq] at hspace
    simp only [List.mem_cons]
    tauto

lemma scanExponent_of_ends (h : Ends rest) (negative : Bool) (whole : List Char) :
    scanExponent negative whole none rest = .numeral ⟨negative, whole, none, none⟩ rest := by
  cases rest with
  | nil => rfl
  | cons c rest =>
    obtain ⟨-, -, hlower, hupper⟩ := h c rfl
    simp [scanExponent, hlower, hupper]

section

variable {digits : List Char}

lemma takeWhile_digits (hdigits : ∀ c ∈ digits, c.isDigit = true) (hends : Ends rest) :
    (digits ++ rest).takeWhile Char.isDigit = digits := by
  rw [List.takeWhile_append_of_pos hdigits]
  cases rest with
  | nil => simp
  | cons c rest => simp [(hends c rfl).1]

lemma dropWhile_digits (hdigits : ∀ c ∈ digits, c.isDigit = true) (hends : Ends rest) :
    (digits ++ rest).dropWhile Char.isDigit = rest := by
  rw [List.dropWhile_append_of_pos hdigits]
  cases rest with
  | nil => rfl
  | cons c rest => simp [(hends c rfl).1]

/-- Digits without a leading zero are a numeral, whatever follows them that does not go on with it,
and so they are behind a minus sign. -/
lemma scanNumeral_digits (hdigits : ∀ c ∈ digits, c.isDigit = true) (hne : digits ≠ [])
    (hzero : digits.head? = some '0' → digits.length = 1) (hends : Ends rest) :
    scanNumeral (digits ++ rest) = .numeral ⟨false, digits, none, none⟩ rest ∧
      scanNumeral ('-' :: digits ++ rest) = .numeral ⟨true, digits, none, none⟩ rest := by
  have hleading : (decide (digits.head? = some '0') && decide (digits.length > 1)) = false := by
    by_cases h : digits.head? = some '0'
    · simp [hzero h]
    · simp [h]
  have hminus : ∀ more, digits ++ rest ≠ '-' :: more := by
    intro more heq
    obtain ⟨d, ds, rfl⟩ := List.exists_cons_of_ne_nil hne
    rw [List.cons_append, List.cons.injEq] at heq
    have hdigit := hdigits d List.mem_cons_self
    rw [heq.1] at hdigit
    exact absurd hdigit (by decide)
  have hempty : digits.isEmpty = false := by simpa using hne
  -- behind the digits stands no point, so the numeral ends there
  have hpoint : ∀ more, rest ≠ '.' :: more := by
    rintro more rfl
    exact (hends '.' rfl).2.1 rfl
  constructor
  · rw [scanNumeral]
    · simp only [takeWhile_digits hdigits hends, dropWhile_digits hdigits hends, hempty, hleading,
        Bool.false_eq_true, if_false]
      exact scanExponent_of_ends hends false digits
    · exact hminus
  · rw [List.cons_append, scanNumeral]
    simp only [takeWhile_digits hdigits hends, dropWhile_digits hdigits hends, hempty, hleading,
      Bool.false_eq_true, if_false]
    exact scanExponent_of_ends hends true digits

end

/-- Digits that fit a word are all taken, after the number that was read already. -/
lemma appendDigits_of_le {n : Nat} {digits : List Char}
    (h : Nat.ofDigitChars 10 digits n ≤ greatestWord) :
    appendDigits n digits = (Nat.ofDigitChars 10 digits n, []) := by
  induction digits generalizing n with
  | nil => rfl
  | cons c digits ih =>
    rw [Nat.ofDigitChars_cons] at h ⊢
    have hgrows : ∀ (digits : List Char) (n : Nat), n ≤ Nat.ofDigitChars 10 digits n := by
      intro digits
      induction digits with
      | nil => exact fun n => le_rfl
      | cons d digits ih =>
        intro n
        rw [Nat.ofDigitChars_cons]
        exact le_trans (by omega) (ih _)
    have hnext : 10 * n + Text.digitValue c ≤ greatestWord := (hgrows digits _).trans h
    simp only [appendDigits, hnext, if_true]
    exact ih h

lemma appendDigits_toDigits {n : Nat} (h : n ≤ greatestWord) :
    appendDigits 0 (Nat.toDigits 10 n) = (n, []) := by
  have hvalue : Nat.ofDigitChars 10 (Nat.toDigits 10 n) 0 = n :=
    Nat.ofDigitChars_toDigits (by decide) (by decide)
  have hdigits : appendDigits 0 (Nat.toDigits 10 n) = _ := appendDigits_of_le (by rwa [hvalue])
  rwa [hvalue] at hdigits

/-- No number but zero is written with a zero first. -/
lemma eq_zero_of_head?_toDigits {n : Nat} (h : (Nat.toDigits 10 n).head? = some '0') : n = 0 := by
  induction n using Nat.strongRecOn with
  | _ n ih =>
    by_cases hsmall : n < 10
    · rw [Nat.toDigits_of_lt_base hsmall] at h
      simpa using h
    · rw [Nat.toDigits_of_base_le (by decide) (by omega),
        List.head?_append_of_ne_nil _ Nat.toDigits_ne_nil] at h
      have := ih (n / 10) (by omega) h
      omega

/-- What stands at the beginning of a text is a number when a numeral with a value stands there. -/
lemma scanToken_numeral {n : Numeral} {value : Number} (hc : c = '-' ∨ c.isDigit = true)
    (h : scanNumeral (c :: rest) = .numeral n after) (hvalue : n.value? = some value) :
    scanToken c rest = (.scalar (.number value), after) := by
  have hne : ∀ d ∈ ['[', ']', '\x7b', '\x7d', ',', ':', '"'], c ≠ d := by
    rintro d hd rfl
    rcases hc with rfl | hc
    · exact absurd hd (by decide)
    · have hnone : ∀ d ∈ ['[', ']', '\x7b', '\x7d', ',', ':', '"'], d.isDigit = false := by simp
      rw [hnone c hd] at hc
      cases hc
  have hbegins : (decide (c = '-') || c.isDigit) = true := by simpa using hc
  simp only [List.forall_mem_cons] at hne
  obtain ⟨h1, h2, h3, h4, h5, h6, h7, -⟩ := hne
  simp only [scanToken, h1, h2, h3, h4, h5, h6, h7, hbegins, h, hvalue, if_true, if_false]

lemma isSpace_of_begins (hc : c = '-' ∨ c.isDigit = true) : isSpace c = false := by
  rcases hc with rfl | hc
  · rfl
  · have hnone : ∀ d ∈ [' ', '\n', '\t', '\r'], d.isDigit = false := by simp
    by_contra hspace
    have hmem : c ∈ [' ', '\n', '\t', '\r'] := by
      simpa [isSpace, or_assoc, or_iff_not_imp_left] using hspace
    rw [hnone c hmem] at hc
    cases hc

/-- **A whole number that fits a word is read as it was written.** -/
lemma Scans.int {value : Int} (hfits : Scalar.fitsWord value = Bool.true) (hends : Ends rest)
    (h : Scans rest ts) :
    Scans (intChars value ++ rest) (.scalar (.number (.int value)) :: ts) := by
  have hbounds : -2 ^ 63 ≤ value ∧ value < 2 ^ 64 := by
    simpa [Scalar.fitsWord] using hfits
  have hdigits : ∀ (n : Nat), ∀ c ∈ Nat.toDigits 10 n, c.isDigit = Bool.true := fun n c hc =>
    Nat.isDigit_of_mem_toDigits (by decide) (by decide) hc
  have hzero : ∀ (n : Nat), (Nat.toDigits 10 n).head? = some '0' →
      (Nat.toDigits 10 n).length = 1 := by
    intro n hn
    rw [eq_zero_of_head?_toDigits hn]
    rfl
  cases value with
  | ofNat n =>
    obtain ⟨c, digits, hcons⟩ := List.exists_cons_of_ne_nil (Nat.toDigits_ne_nil (n := n) (b := 10))
    have hc : c = '-' ∨ c.isDigit = Bool.true := .inr (hdigits n c (by simp [hcons]))
    have hscan := (scanNumeral_digits (hdigits n) Nat.toDigits_ne_nil (hzero n) hends).1
    have hvalue : Numeral.value? ⟨Bool.false, Nat.toDigits 10 n, none, none⟩ =
        some (.int (Int.ofNat n)) := by
      have hword : n ≤ greatestWord := by
        have : greatestWord = 2 ^ 64 - 1 := rfl
        simp at hbounds
        omega
      simp [Numeral.value?, appendDigits_toDigits hword]
    rw [intChars, hcons] at *
    refine .token (isSpace_of_begins hc) (scanToken_numeral hc hscan hvalue) ?_ h
    simp
  | negSucc n =>
    have hc : '-' = '-' ∨ '-'.isDigit = Bool.true := .inl rfl
    have hscan := (scanNumeral_digits (hdigits (n + 1)) Nat.toDigits_ne_nil (hzero (n + 1)) hends).2
    have hvalue : Numeral.value? ⟨Bool.true, Nat.toDigits 10 (n + 1), none, none⟩ =
        some (.int (Int.negSucc n)) := by
      have hword : n + 1 ≤ greatestWord := by
        have : greatestWord = 2 ^ 64 - 1 := rfl
        omega
      have hsmall : ¬ n + 1 > Nat.pow 2 63 := by
        simp
        omega
      simp [Numeral.value?, appendDigits_toDigits hword, hsmall, Int.negSucc_eq]
    refine .token rfl (scanToken_numeral hc hscan hvalue) ?_ h
    simp

/-! ## Values -/

/-- A text is divided into the given tokens, whatever follows it that does not go on with a
numeral. -/
def Written (cs : List Char) (ts : List Token) : Prop :=
  ∀ (rest : List Char) (more : List Token), Ends rest → Scans rest more →
    Scans (cs ++ rest) (ts ++ more)

section

/-! An array or an object of any layout: `gap` stands before each item or name, `behind` the colon,
and `close` before the closing bracket. -/

variable {gap behind close : List Char} {text : Json → List Char}
variable (hgap : Blank gap) (hclose : Blank close)
include hgap hclose

lemma written_array (tail : List Json → List Char) (hnil : tail [] = [])
    (hcons : ∀ item items, tail (item :: items) = ',' :: gap ++ text item ++ tail items)
    {item : Json} {items : List Json} (hitem : Written (text item) (tokens item))
    (hitems : ∀ item ∈ items, Written (text item) (tokens item)) :
    Written ('[' :: gap ++ text item ++ tail items ++ close ++ [']'])
      (tokens (.array (item :: items))) := by
  intro rest more hrest hmore
  have htail : ∀ items : List Json, (∀ item ∈ items, Written (text item) (tokens item)) →
      Ends (tail items ++ (close ++ ']' :: rest)) ∧
        Scans (tail items ++ (close ++ ']' :: rest)) (itemTokens items ++ .closeArray :: more) := by
    intro items hitems
    induction items with
    | nil =>
      rw [hnil, itemTokens, List.nil_append, List.nil_append]
      exact ⟨(ends_cons (by decide)).blank hclose, hmore.closeArray.blank hclose⟩
    | cons item items ih =>
      obtain ⟨hitem, hitems⟩ := List.forall_mem_cons.1 hitems
      obtain ⟨hends, hscans⟩ := ih hitems
      simp only [hcons, itemTokens, List.cons_append, List.append_assoc]
      exact ⟨ends_cons (by decide), ((hitem _ _ hends hscans).blank hgap).comma⟩
  obtain ⟨hends, hscans⟩ := htail items hitems
  simp only [tokens, List.cons_append, List.append_assoc, List.nil_append]
  exact ((hitem _ _ hends hscans).blank hgap).openArray

lemma written_object (hbehind : Blank behind) (tail : List (String × Json) → List Char)
    (hnil : tail [] = [])
    (hcons : ∀ name value members, tail ((name, value) :: members) =
      ',' :: gap ++ stringChars name ++ ':' :: behind ++ text value ++ tail members)
    (name : String) {value : Json} {members : List (String × Json)}
    (hvalue : Written (text value) (tokens value))
    (hmembers : ∀ e ∈ members, Written (text e.2) (tokens e.2)) :
    Written ('\x7b' :: gap ++ stringChars name ++ ':' :: behind ++ text value ++ tail members ++
      close ++ ['\x7d']) (tokens (.object ((name, value) :: members))) := by
  intro rest more hrest hmore
  have htail : ∀ members : List (String × Json),
      (∀ e ∈ members, Written (text e.2) (tokens e.2)) →
      Ends (tail members ++ (close ++ '\x7d' :: rest)) ∧
        Scans (tail members ++ (close ++ '\x7d' :: rest))
          (memberTokens members ++ .closeObject :: more) := by
    intro members hmembers
    induction members with
    | nil =>
      rw [hnil, memberTokens, List.nil_append, List.nil_append]
      exact ⟨(ends_cons (by decide)).blank hclose, hmore.closeObject.blank hclose⟩
    | cons e members ih =>
      obtain ⟨hvalue, hmembers⟩ := List.forall_mem_cons.1 hmembers
      obtain ⟨hends, hscans⟩ := ih hmembers
      simp only [hcons, memberTokens, List.cons_append, List.append_assoc]
      exact ⟨ends_cons (by decide),
        ((((hvalue _ _ hends hscans).blank hbehind).colon.string e.1).blank hgap).comma⟩
  obtain ⟨hends, hscans⟩ := htail members hmembers
  simp only [tokens, List.cons_append, List.append_assoc, List.nil_append]
  exact ((((hvalue _ _ hends hscans).blank hbehind).colon.string name).blank hgap).openObject

end

/-- The tokens of a value on one line. -/
lemma written_compact {j : Json} (h : j.Readable) : Written j.compactChars j.tokens := by
  induction h with
  | null => exact fun _ _ _ hmore => hmore.null
  | bool value =>
    cases value with
    | false => exact fun _ _ _ hmore => hmore.false
    | true => exact fun _ _ _ hmore => hmore.true
  | int hfits => exact fun _ _ hends hmore => hmore.int hfits hends
  | string text => exact fun _ _ _ hmore => hmore.string text
  | @array items hitems ih =>
    cases items with
    | nil => exact fun _ _ _ hmore => hmore.closeArray.openArray
    | cons item items =>
      obtain ⟨hitem, hitems⟩ := List.forall_mem_cons.1 ih
      have hwritten := written_array blank_nil blank_nil compactItems
        (by rw [compactItems]) (fun item items => by simp [compactItems]) hitem hitems
      simpa [compactChars] using hwritten
  | @object members hmembers ih =>
    cases members with
    | nil => exact fun _ _ _ hmore => hmore.closeObject.openObject
    | cons e members =>
      obtain ⟨hvalue, hmembers⟩ := List.forall_mem_cons.1 ih
      have hwritten := written_object blank_nil blank_nil blank_nil compactMembers
        (by rw [compactMembers]) (fun name value members => by simp [compactMembers])
        e.1 hvalue hmembers
      simpa [compactChars] using hwritten

/-- The tokens of a value over several lines. -/
lemma written_pretty {j : Json} (h : j.Readable) (level : Nat) :
    Written (j.prettyChars level) j.tokens := by
  induction h generalizing level with
  | null => exact fun _ _ _ hmore => hmore.null
  | bool value =>
    cases value with
    | false => exact fun _ _ _ hmore => hmore.false
    | true => exact fun _ _ _ hmore => hmore.true
  | int hfits => exact fun _ _ hends hmore => hmore.int hfits hends
  | string text => exact fun _ _ _ hmore => hmore.string text
  | @array items hitems ih =>
    cases items with
    | nil => exact fun _ _ _ hmore => hmore.closeArray.openArray
    | cons item items =>
      obtain ⟨hitem, hitems⟩ := List.forall_mem_cons.1 fun item hmem => ih item hmem (level + 1)
      have hwritten := written_array (blank_newLine (level + 1)) (blank_newLine level)
        (prettyItems (level + 1)) (by rw [prettyItems])
        (fun item items => by simp [prettyItems]) hitem hitems
      simpa [prettyChars] using hwritten
  | @object members hmembers ih =>
    cases members with
    | nil => exact fun _ _ _ hmore => hmore.closeObject.openObject
    | cons e members =>
      obtain ⟨hvalue, hmembers⟩ := List.forall_mem_cons.1 fun e hmem => ih e hmem (level + 1)
      have hbehind : Blank [' '] := by simp [Blank, isSpace]
      have hwritten := written_object (blank_newLine (level + 1)) (blank_newLine level) hbehind
        (prettyMembers (level + 1)) (by rw [prettyMembers])
        (fun name value members => by simp [prettyMembers]) e.1 hvalue hmembers
      simpa [prettyChars] using hwritten

/-- **The tokens of a written value**, on one line or over several. -/
theorem scan_of_readable {j : Json} (h : j.Readable) :
    Token.scan j.compact.toList = j.tokens ∧ Token.scan j.pretty.toList = j.tokens := by
  have hcompact := written_compact h [] [] ends_nil scans_nil
  have hpretty := written_pretty h 0 [] [] ends_nil scans_nil
  simp only [List.append_nil] at hcompact hpretty
  exact ⟨by simpa [compact] using hcompact.scan, by simpa [pretty] using hpretty.scan⟩

end ApiTypes.Json
