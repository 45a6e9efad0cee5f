import ApiTypes.Source.Tree

/-!
# Decoding source trees

How the values of a document are read from trees: scalars, lists, named values, choices, and
records of named fields.

* `bool`, `natWord`, `option`, `list`, `ordered`, `sorted` — single values and collections.
* `distinct` — named values together with the proof that no two of them share a name.
* `choice`, `settledChoice` — one of several names.
* `Field`, `record` — a record, written with the names of its fields or as a list of them.
* `need` — a field that has to be there.
-/

namespace ApiTypes.Source.Tree

variable {α σ : Type}

/-! ## Single values -/

/-- A truth value. -/
def bool : Tree → Except Fault Bool
  | .scalar (.bool value) => return value
  | .word _ (.bool value) => return value
  | tree => .error (tree.refused "a boolean")

/-- A whole number that fits a word, signed or not; the wanted kind is named in the fault. -/
def wholeNumber (wanted : String) (fits : Int → Bool) : Tree → Except Fault Int
  | .scalar (.number (.int value)) =>
    if fits value then return value else mismatch (.wrongValue (.integer value) wanted)
  | .word _ (.number (.int value)) =>
    if fits value then return value else mismatch (.wrongValue (.integer value) wanted)
  | tree => .error (tree.refused wanted)

/-- A whole number that a signed word of 64 bits can hold. -/
def signedWord (tree : Tree) : Except Fault Int64 :=
  (tree.wholeNumber "i64" fun v =>
    Int64.minValue.toInt ≤ v && v ≤ Int64.maxValue.toInt).map Int64.ofInt

/-- A whole number that an unsigned word of 64 bits can hold. -/
def natWord (tree : Tree) : Except Fault Nat :=
  (tree.wholeNumber "usize" fun v => 0 ≤ v && v < UInt64.size).map Int.toNat

/-- Whether a tree says that there is no value. -/
def isNothing : Tree → Bool
  | .scalar .null => true
  | .word _ .null => true
  | _ => false

/-- A value that may be missing. -/
def option (decode : Tree → Except Fault α) (tree : Tree) : Except Fault (Option α) :=
  if tree.isNothing then return none else return some (← decode tree)

/-! ## Collections -/

/-- The items of a sequence and the break after them.  A word without characters is an empty
sequence. -/
def items : Tree → Except Fault (List Tree × Option Break)
  | .sequence items _ stop => return (items, stop)
  | .deep (.sequence ..) => .error (.broken .malformed)
  | .word "" _ => return ([], none)
  | tree => .error (tree.refused "a sequence")

/-- A list of values. -/
def list (decode : Tree → Except Fault α) (tree : Tree) : Except Fault (List α) := do
  let (items, stop) ← tree.items
  let values ← items.mapM decode
  check stop
  return values

/-- The members of a mapping and the break after them.  A word without characters is an empty
mapping. -/
def members (wanted : String) : Tree → Except Fault (List (Tree × Tree) × Option Break)
  | .mapping members _ stop => return (members, stop)
  | .deep (.mapping ..) => .error (.broken .malformed)
  | .word "" _ => return ([], none)
  | tree => .error (tree.refused wanted)

/-- Adds the named values of members, in order, to those before them. -/
def gather (add : List (String × α) → String → α → List (String × α))
    (decode : Tree → Except Fault α) :
    List (Tree × Tree) → List (String × α) → Except Fault (List (String × α))
  | [], found => return found
  | (key, value) :: rest, found => do
    let name ← key.string
    let value ← decode value
    gather add decode rest (add found name value)

/-- Named values in the order of the text.  The last value of a name counts, in the place of the
first. -/
def ordered (decode : Tree → Except Fault α) (tree : Tree) : Except Fault (List (String × α)) := do
  let (members, stop) ← tree.members "a map"
  let found ← gather Members.put decode members []
  check stop
  return found

theorem exists_of_bind_ok {ε β : Type} {x : Except ε α} {f : α → Except ε β} {b : β}
    (h : x >>= f = .ok b) : ∃ a, x = .ok a ∧ f a = .ok b := by
  cases x with
  | error e => cases h
  | ok a => exact ⟨a, rfl, h⟩

/-- Values that are gathered by putting them never share a name. -/
theorem nodup_gather {decode : Tree → Except Fault α} {members : List (Tree × Tree)}
    {found found' : List (String × α)} (hfound : (Members.names found).Nodup)
    (h : gather Members.put decode members found = .ok found') :
    (Members.names found').Nodup := by
  induction members generalizing found with
  | nil =>
    cases h
    exact hfound
  | cons member members ih =>
    obtain ⟨name, -, h⟩ := exists_of_bind_ok h
    obtain ⟨value, -, h⟩ := exists_of_bind_ok h
    exact ih (Members.nodup_put hfound) h

theorem nodup_ordered {decode : Tree → Except Fault α} {tree : Tree} {found : List (String × α)}
    (h : tree.ordered decode = .ok found) : (Members.names found).Nodup := by
  obtain ⟨⟨members, stop⟩, -, h⟩ := exists_of_bind_ok h
  obtain ⟨values, hvalues, h⟩ := exists_of_bind_ok h
  obtain ⟨-, -, h⟩ := exists_of_bind_ok h
  cases h
  have hnone : (Members.names ([] : List (String × α))).Nodup := List.nodup_nil
  exact nodup_gather hnone hvalues

/-- Named values in the order of the text, of which no two share a name. -/
def distinct (decode : Tree → Except Fault α) (tree : Tree) :
    Except Fault { found : List (String × α) // (Members.names found).Nodup } :=
  match h : tree.ordered decode with
  | .ok found => .ok ⟨found, nodup_ordered h⟩
  | .error fault => .error fault

/-- Named values in the order of their names.  The last value of a name counts. -/
def sorted (decode : Tree → Except Fault α) (tree : Tree) : Except Fault (List (String × α)) := do
  let (members, stop) ← tree.members "a map"
  let found ← gather Members.insert decode members []
  check stop
  return found

/-! ## Choices -/

/-- The possibility with a name. -/
def pick (known : List (String × α)) (name : String) : Except Fault α :=
  match Members.get? known name with
  | some value => return value
  | none => mismatch (.unknownVariant name (Members.names known))

/-- One of several names, read directly from a text.  It may also stand as the only key of a
selecting mapping, without a value. -/
def choice (known : List (String × α)) : Tree → Except Fault α
  | .scalar (.string name) => pick known name
  | .word name _ => pick known name
  | .unreadable how _ => .error (.broken how)
  | .mapping ((key, value) :: others) true stop => do
    let chosen ← pick known (← key.string)
    if !value.isNothing then .error (value.refused "unit")
    if !others.isEmpty then .error (.broken .malformed)
    check stop
    return chosen
  | .mapping [] _ (some how) => .error (.broken how)
  | _ => .error (.broken .malformed)

/-- One of several names, in a tree that has been read whole. -/
def settledChoice (known : List (String × α)) : Tree → Except Fault α
  | .scalar (.string name) => pick known name
  | .mapping [(key, value)] _ _ => do
    let chosen ← pick known (← key.string)
    match value with
    | .scalar .null => return chosen
    | .mapping [] _ _ => return chosen
    | value => .error (value.refused "unit")
  | .mapping .. => mismatch (.wrongValue .map "map with a single key")
  | tree => .error (tree.refused "string or map")

/-! ## Records -/

/-- A field of a record: its name, and whether it may be left out. -/
structure Field where
  name : String
  optional : Bool

/-- A field that has to be there. -/
def Field.required (name : String) : Field := ⟨name, false⟩

/-- A field that may be left out. -/
def Field.optionally (name : String) : Field := ⟨name, true⟩

/-- The field that a key names.  In a tree read whole, a number stands for the field at that
place. -/
def fieldName (fields : List Field) : Tree → Except Fault String
  | .scalar (.string name) => return name
  | .word name _ => return name
  | .scalar (.number (.int i)) =>
    if 0 ≤ i then return ((fields[i.toNat]?).map Field.name).getD ""
    else mismatch (.wrongType (.integer i) "field identifier")
  | tree => .error (tree.refused "field identifier")

/-- Reads the fields of a record from members, in the order of the text.  No field may come twice;
members that are no fields are passed over. -/
def readMembers (fields : List Field) (read : String → Tree → σ → Except Fault σ) :
    (members : List (Tree × Tree)) → (seen : List String) → σ → Except Fault σ
  | [], _, state => return state
  | (key, value) :: rest, seen, state => do
    let name ← fieldName fields key
    if fields.any (·.name == name) then
      if seen.contains name then mismatch (.duplicateField name)
      let state ← read name value state
      readMembers fields read rest (name :: seen) state
    else
      check value.skip
      readMembers fields read rest seen state

/-- Reads the fields of a record from a list of them, in the order of the fields.  Optional fields
may be missing at the end. -/
def readItems (wanted : String) (read : String → Tree → σ → Except Fault σ) (stop : Option Break) :
    (fields : List Field) → (place : Nat) → (items : List Tree) → σ → Except Fault σ
  | [], _, [], state => do
    check stop
    return state
  | [], _, _ :: _, _ => .error (.broken .malformed)
  | field :: fields, place, [], state => do
    check stop
    if field.optional then readItems wanted read stop fields (place + 1) [] state
    else mismatch (.wrongLength place wanted)
  | field :: fields, place, item :: items, state => do
    let state ← read field.name item state
    readItems wanted read stop fields (place + 1) items state

/-- **A record**: a mapping from the names of its fields, or a positional sequence of the fields in
order.  `read` takes the value of one field. -/
def record (type : String) (fields : List Field) (read : String → Tree → σ → Except Fault σ)
    (start : σ) (tree : Tree) : Except Fault σ :=
  let wanted := "struct " ++ type
  match tree with
  | .sequence items true stop =>
    readItems (wanted ++ " with " ++ fields.length.repr ++ " elements") read stop fields 0 items
      start
  | .deep (.sequence _ true _) => .error (.broken .malformed)
  | tree => do
    let (members, stop) ← tree.members wanted
    let state ← readMembers fields read members [] start
    check stop
    return state

/-- The value of a field that has to be there. -/
def need (name : String) : Option α → Except Fault α
  | some value => return value
  | none => mismatch (.missingField name)

end ApiTypes.Source.Tree
