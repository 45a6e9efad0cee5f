import ApiTypes.Text.CaseRanges

/-!
# Letter case

Small and capital letters, and the two spellings of a compound name that mark its parts with
underscores.

* `isSmall`, `isCapital`, `lower` — case of single characters, by the Unicode properties and the
  one-character mappings.
* `snakeCase` — `camelCase text` becomes `camel_case_text`.
* `constantCase` — the same in capitals.
-/

namespace ApiTypes.Text

/-- Whether a code point lies on one of the given runs. -/
def onRun (n : Nat) (runs : List (Nat × Nat × Nat)) : Bool :=
  runs.any fun (first, last, step) => first ≤ n && n ≤ last && (n - first) % step == 0

/-- A small letter. -/
def isSmall (c : Char) : Bool :=
  if c.toNat < 0x80 then c.isLower else onRun c.toNat smallRanges

/-- A capital letter. -/
def isCapital (c : Char) : Bool :=
  if c.toNat < 0x80 then c.isUpper else onRun c.toNat capitalRanges

/-- The small form of a letter: one character for every letter but the dotted capital I, whose
small form keeps its dot as a mark of its own. -/
def lower (c : Char) : List Char :=
  if c.toNat < 0x80 then [c.toLower]
  else if c.toNat = 0x130 then ['i', Char.ofNat 0x307]
  else
    let n := c.toNat
    match loweringRanges.find? fun (first, last, step, _) =>
        first ≤ n && n ≤ last && (n - first) % step == 0 with
    | some (_, _, _, shift) => [Char.ofNat (n + shift).toNat]
    | none => [c]

/-- Space, hyphen and underscore stand between the parts of a compound name. -/
def isJoint (c : Char) : Bool :=
  c = ' ' || c = '-' || c = '_'

/-- The parts of a compound name held apart by underscores: every joint becomes one, and one goes
between a small letter and a capital that follows it directly. -/
def separateParts : List Char → List Char
  | [] => []
  | [c] => [if isJoint c then '_' else c]
  | c :: d :: cs =>
    if isSmall c && isCapital d then c :: '_' :: separateParts (d :: cs)
    else (if isJoint c then '_' else c) :: separateParts (d :: cs)

/-- A compound name in small letters, its parts held apart by underscores. -/
def snakeCase (cs : List Char) : List Char :=
  (separateParts cs).flatMap lower

/-- A compound name in capitals, its parts held apart by underscores.  Only letters of ASCII have
their case changed: the names it is applied to are spelled in ASCII. -/
def constantCase (cs : List Char) : List Char :=
  (separateParts cs).map Char.toUpper

/-- The small letters of a text, for letters of ASCII only. -/
def lowerAscii (s : String) : String :=
  String.ofList (s.toList.map Char.toLower)

/-- The capitals of a text, for letters of ASCII only. -/
def upperAscii (s : String) : String :=
  String.ofList (s.toList.map Char.toUpper)

end ApiTypes.Text
