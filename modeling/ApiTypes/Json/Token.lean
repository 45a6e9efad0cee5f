import ApiTypes.Json.Numeral

/-!
# Tokens of JSON text

* `Token` — brackets, marks and scalars, and the places where the text breaks inside a scalar.
* `Token.scan` — the tokens of a text, up to its end or to the first place where it cannot be
  divided further.
-/

namespace ApiTypes.Json

open Source (Break Scalar)

/-- A token of JSON text. -/
inductive Token where
  | openArray
  | closeArray
  | openObject
  | closeObject
  | comma
  | colon
  | scalar (value : Scalar)
  /-- A string that cannot be read: how reading it breaks, and passing over it if it does. -/
  | badString (read : Break) (skip : Option Break)
  /-- A number or a word that cannot be read. -/
  | badScalar (read : Break) (skip : Option Break)
  /-- A character that begins no token. -/
  | stray

/-! ## Strings -/

/-- The value of a digit in base sixteen. -/
def hexValue? (c : Char) : Option Nat :=
  if c.isDigit then some (Text.digitValue c)
  else if 'a' ≤ c && c ≤ 'f' then some (c.toNat - 'a'.toNat + 10)
  else if 'A' ≤ c && c ≤ 'F' then some (c.toNat - 'A'.toNat + 10)
  else none

/-- Four digits in base sixteen at the beginning of a text, and the text behind them. -/
def hexFour? : List Char → Option (Nat × List Char)
  | a :: b :: c :: d :: rest => do
    let a ← hexValue? a
    let b ← hexValue? b
    let c ← hexValue? c
    let d ← hexValue? d
    return (4096 * a + 256 * b + 16 * c + d, rest)
  | _ => none

/-- Four digits take characters from the text. -/
theorem length_of_hexFour? {cs rest : List Char} {n : Nat} (h : hexFour? cs = some (n, rest)) :
    rest.length < cs.length := by
  unfold hexFour? at h
  split at h
  · simp only [Option.bind_eq_bind, Option.bind_eq_some_iff, Option.pure_def, Option.some.injEq,
      Prod.mk.injEq] at h
    obtain ⟨_, _, _, _, _, _, _, _, _, rfl⟩ := h
    simp only [List.length_cons]
    omega
  · simp at h

/-- A character that is written as a code at the beginning of a text: the code, and the text
behind it. -/
def escapedCode? : List Char → Option (Nat × List Char)
  | '\\' :: 'u' :: digits => hexFour? digits
  | _ => none

/-- A code takes characters from the text. -/
theorem length_of_escapedCode? {cs rest : List Char} {n : Nat}
    (h : escapedCode? cs = some (n, rest)) : rest.length < cs.length := by
  unfold escapedCode? at h
  split at h
  · have := length_of_hexFour? h
    simp only [List.length_cons]
    omega
  · simp at h

/-- Whether fewer than four bytes of text are left. -/
def fewerThanFourBytes (cs : List Char) : Bool :=
  (cs.take 4).foldr (fun c n => c.utf8Size + n) 0 < 4

/-- How the text breaks where four digits in base sixteen are wanted and are not there. -/
def hexBreak (cs : List Char) : Break :=
  if fewerThanFourBytes cs then .endOfText else .malformed

/-- The character that a letter stands for behind a backslash. -/
def escapeOf? (c : Char) : Option Char :=
  if c = '"' || c = '\\' || c = '/' then some c
  else if c = 'b' then some (Char.ofNat 0x08)
  else if c = 'f' then some (Char.ofNat 0x0C)
  else if c = 'n' then some '\n'
  else if c = 'r' then some '\r'
  else if c = 't' then some '\t'
  else none

/-- What a text holds up to the end of a string. -/
structure StringScan where
  /-- The characters of the string, or how reading it breaks. -/
  text : Except Break (List Char)
  /-- The text behind the closing quote, or how passing over the string breaks. -/
  rest : Except Break (List Char)

/-- A string that ends with a break: reading it breaks where it broke first. -/
def StringScan.broken (first : Option Break) (how : Break) : StringScan :=
  ⟨.error (first.getD how), .error how⟩

/-- The first half of a character that is written as two codes. -/
def isHighSurrogate (n : Nat) : Bool :=
  0xD800 ≤ n && n ≤ 0xDBFF

/-- The second half of a character that is written as two codes. -/
def isLowSurrogate (n : Nat) : Bool :=
  0xDC00 ≤ n && n ≤ 0xDFFF

/-- How reading breaks when a first half is followed by the given text, which is no second half:
the text may end where one could still come. -/
def unpairedBreak : List Char → Break
  | [] => .endOfText
  | ['\\'] => .endOfText
  | '\\' :: 'u' :: more => if (hexFour? more).isNone then hexBreak more else .malformed
  | _ => .malformed

/-- Scans a string from behind its opening quote.  `seen` holds its characters so far, latest
first, and `first` how reading it has broken already: a string with half a character in it can
still be passed over. -/
def scanString (first : Option Break) (seen : List Char) : List Char → StringScan
  | [] => .broken first .endOfText
  | '"' :: rest =>
    ⟨match first with
      | none => .ok seen.reverse
      | some how => .error how, .ok rest⟩
  | ['\\'] => .broken first .endOfText
  | '\\' :: 'u' :: digits =>
    match h : hexFour? digits with
    | none => .broken first (hexBreak digits)
    | some (n, rest) =>
      have := length_of_hexFour? h
      if isLowSurrogate n then scanString (first.or (some .malformed)) seen rest
      else if isHighSurrogate n then
        match hm : escapedCode? rest with
        | some (m, after) =>
          have := length_of_escapedCode? hm
          if isLowSurrogate m then
            scanString first
              (Char.ofNat (0x10000 + 0x400 * (n - 0xD800) + (m - 0xDC00)) :: seen) after
          else scanString (first.or (some .malformed)) seen rest
        | none => scanString (first.or (some (unpairedBreak rest))) seen rest
      else scanString first (Char.ofNat n :: seen) rest
  | '\\' :: c :: rest =>
    match escapeOf? c with
    | some d => scanString first (d :: seen) rest
    | none => .broken first .malformed
  | c :: rest =>
    if c.toNat < 0x20 then .broken first .malformed
    else scanString first (c :: seen) rest
termination_by cs => cs.length
decreasing_by all_goals (simp only [List.length_cons]; omega)

/-! ## Words -/

/-- The text behind a word that its first letter has begun, or how the text departs from it. -/
def scanWord : (word text : List Char) → Except Break (List Char)
  | [], cs => .ok cs
  | _ :: _, [] => .error .endOfText
  | w :: ws, c :: cs => if w = c then scanWord ws cs else .error .malformed

/-! ## Texts -/

/-- Characters that may stand between tokens. -/
def isSpace (c : Char) : Bool :=
  c = ' ' || c = '\n' || c = '\t' || c = '\r'

/-- The token at the beginning of a text, and the text behind it; nothing behind a token that
cannot be passed over. -/
def scanToken (c : Char) (rest : List Char) : Token × List Char :=
  if c = '[' then (.openArray, rest)
  else if c = ']' then (.closeArray, rest)
  else if c = '\x7b' then (.openObject, rest)
  else if c = '\x7d' then (.closeObject, rest)
  else if c = ',' then (.comma, rest)
  else if c = ':' then (.colon, rest)
  else if c = '"' then
    match scanString none [] rest with
    | ⟨.ok text, .ok rest⟩ => (.scalar (.string (String.ofList text)), rest)
    | ⟨.error read, .ok rest⟩ => (.badString read none, rest)
    | ⟨.ok _, .error how⟩ => (.badString how (some how), [])
    | ⟨.error read, .error skip⟩ => (.badString read (some skip), [])
  else if c = '-' || c.isDigit then
    match scanNumeral (c :: rest) with
    | .numeral n rest =>
      match n.value? with
      | some value => (.scalar (.number value), rest)
      | none => (.badScalar .malformed none, rest)
    | .broken how => (.badScalar how (some .malformed), [])
  else if c = 'n' then word (.null) ['u', 'l', 'l']
  else if c = 't' then word (.bool true) ['r', 'u', 'e']
  else if c = 'f' then word (.bool false) ['a', 'l', 's', 'e']
  else (.stray, [])
where
  /-- The value of a word, when the rest of the word follows. -/
  word (value : Scalar) (letters : List Char) : Token × List Char :=
    match scanWord letters rest with
    | .ok rest => (.scalar value, rest)
    | .error how => (.badScalar how (some how), [])

/-- The tokens of a text.  No token takes more characters than there are, so as many steps as the
text has characters suffice. -/
def scanSteps : (steps : Nat) → List Char → List Token
  | 0, _ => []
  | _ + 1, [] => []
  | steps + 1, c :: rest =>
    if isSpace c then scanSteps steps rest
    else
      let (token, rest) := scanToken c rest
      token :: scanSteps steps rest

/-- **The tokens of a text.** -/
def Token.scan (cs : List Char) : List Token :=
  scanSteps cs.length cs

end ApiTypes.Json
