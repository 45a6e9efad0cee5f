import ApiTypes.Source.Fault

/-!
# Source trees

What a text says, as far as it can be read.  A reader of a text never fails: where the text breaks,
the tree it gives holds the break at that place.  Decoding walks the tree in reading order and so
meets whatever comes first, a break of the text or a thing that does not fit.

* `Scalar` — a value without parts.
* `Tree` — the tree of a text; `Document` adds what follows the tree in the text.
* `Tree.found`, `Tree.refused` — what stands at the root, and the fault of not wanting it.
* `Tree.skip` — passing over a tree that is not wanted.
* `Tree.settled` — a tree read whole before it is looked at.
* `Tree.limited` — containers nested too deep are marked.
-/

namespace ApiTypes.Source

/-! ## Trees -/

/-- A value without parts. -/
inductive Scalar where
  | null
  | bool (value : Bool)
  | number (value : Number)
  | string (text : String)

/-- What a text says, as far as it can be read. -/
inductive Tree where
  /-- A value of known kind. -/
  | scalar (value : Scalar)
  /-- A plain word whose kind its place decides: a text as it is written, or else the value it
  stands for. -/
  | word (text : String) (value : Scalar)
  /-- Something that cannot be read, but perhaps be passed over: how reading it breaks, and how
  passing over it does if it does. -/
  | unreadable (read : Break) (skip : Option Break)
  /-- A sequence, and how the text breaks after its last item if it does.  A positional one may
  stand for a record, its items being the fields in order. -/
  | sequence (items : List Tree) (positional : Bool) (stop : Option Break)
  /-- Keys with values, and how the text breaks after the last value if it does.  A selecting one
  may stand for a choice, its only key being the name that is chosen. -/
  | mapping (members : List (Tree × Tree)) (selecting : Bool) (stop : Option Break)
  /-- A container that is nested too deep to be entered. -/
  | deep (tree : Tree)

instance : Inhabited Tree := ⟨.scalar .null⟩

/-- The tree of a text, and how the text breaks after it if it does. -/
structure Document where
  root : Tree
  trailing : Option Break

/-- Turns a break that may be there into a fault. -/
def check : Option Break → Except Fault Unit
  | none => .ok ()
  | some how => .error (.broken how)

/-- A mismatch as the outcome of decoding. -/
def mismatch {α : Type} (what : Mismatch) : Except Fault α :=
  .error (.mismatch what)

namespace Scalar

/-- A value without parts, as a thing that was found. -/
def found : Scalar → Found
  | .null => .null
  | .bool value => .boolean value
  | .number (.int value) => .integer value
  | .number (.float value) => .floating value
  | .string text => .string text

/-- Whether a number is one that a signed or an unsigned word of 64 bits can hold. -/
def fitsWord (value : Int) : Bool :=
  Int64.minValue.toInt ≤ value && value < UInt64.size

/-- The JSON value of a scalar.  A double without a finite value counts as no value; a whole
number has to fit a word. -/
def json : Scalar → Except Fault Json
  | .null => .ok .null
  | .bool value => .ok (.bool value)
  | .number (.int value) =>
    if fitsWord value then .ok (.number (.int value))
    else mismatch (.wrongType (.integer value) "any valid JSON value")
  | .number (.float value) =>
    .ok (if value.isFinite then .number (.float value) else .null)
  | .string text => .ok (.string text)

end Scalar

namespace Tree

/-! ## What was found instead -/

/-- The fault of finding a tree where something else is wanted. -/
def refused (wanted : String) : Tree → Fault
  | .scalar value => .mismatch (.wrongType value.found wanted)
  | .word _ value => .mismatch (.wrongType value.found wanted)
  | .unreadable how _ => .broken how
  | .sequence .. => .mismatch (.wrongType .sequence wanted)
  | .mapping .. => .mismatch (.wrongType .map wanted)
  | .deep tree => tree.refused wanted

/-! ## Passing over -/

mutual

/-- How passing over a tree breaks, if it does. -/
def skip : Tree → Option Break
  | .scalar _ => none
  | .word _ _ => none
  | .unreadable _ how => how
  | .sequence items _ stop => (skipItems items).or stop
  | .mapping members _ stop => (skipMembers members).or stop
  | .deep tree => skip tree

/-- The first break among trees that are passed over. -/
def skipItems : List Tree → Option Break
  | [] => none
  | item :: items => (skip item).or (skipItems items)

/-- The first break among members that are passed over. -/
def skipMembers : List (Tree × Tree) → Option Break
  | [] => none
  | (key, value) :: members => ((skip key).or (skip value)).or (skipMembers members)

end

/-! ## Reading whole -/

mutual

/-- A tree read whole: it has no break in it and every word in it has become a value of its
kind. -/
def settled : Tree → Except Fault Tree
  | .scalar value => do
    let _ ← value.json
    return .scalar value
  | .word _ value => do
    let _ ← value.json
    return .scalar value
  | .unreadable how _ => .error (.broken how)
  | .sequence items positional stop => do
    let items ← settledItems items
    check stop
    return .sequence items positional none
  | .mapping members selecting stop => do
    let members ← settledMembers members
    check stop
    return .mapping members selecting none
  | .deep _ => .error (.broken .malformed)

/-- Trees read whole, in order. -/
def settledItems : List Tree → Except Fault (List Tree)
  | [] => return []
  | item :: items => do
    let item ← settled item
    let items ← settledItems items
    return item :: items

/-- Members read whole, in order. -/
def settledMembers : List (Tree × Tree) → Except Fault (List (Tree × Tree))
  | [] => return []
  | (key, value) :: members => do
    let key ← settled key
    let value ← settled value
    let members ← settledMembers members
    return (key, value) :: members

end

/-! ## Values of any shape -/

/-- The text of a tree that is a string, or a word. -/
def string : Tree → Except Fault String
  | .scalar (.string text) => return text
  | .word text _ => return text
  | tree => .error (tree.refused "a string")

mutual

/-- The JSON value that a tree stands for.  Of members with one name the last value counts, in the
place of the first. -/
def json : Tree → Except Fault Json
  | .scalar value => value.json
  | .word _ value => value.json
  | .unreadable how _ => .error (.broken how)
  | .sequence items _ stop => do
    let items ← jsonItems items
    check stop
    return .array items
  | .mapping members _ stop => do
    let members ← jsonMembers members []
    check stop
    return .object members
  | .deep _ => .error (.broken .malformed)

/-- The JSON values of trees, in order. -/
def jsonItems : List Tree → Except Fault (List Json)
  | [] => return []
  | item :: items => do
    let item ← json item
    let items ← jsonItems items
    return item :: items

/-- The members of an object, added to those before them. -/
def jsonMembers : List (Tree × Tree) → List (String × Json) → Except Fault (List (String × Json))
  | [], found => return found
  | (key, value) :: members, found => do
    let name ← key.string
    let value ← json value
    jsonMembers members (Members.put found name value)

end

/-! ## Depth -/

mutual

/-- A tree whose containers below the first `room` levels are marked as too deep. -/
def limited (room : Nat) : Tree → Tree
  | .sequence items positional stop =>
    match room with
    | 0 => .deep (.sequence items positional stop)
    | room + 1 => .sequence (limitedItems room items) positional stop
  | .mapping members selecting stop =>
    match room with
    | 0 => .deep (.mapping members selecting stop)
    | room + 1 => .mapping (limitedMembers room members) selecting stop
  | .scalar value => .scalar value
  | .word text value => .word text value
  | .unreadable read skip => .unreadable read skip
  | .deep tree => .deep tree

/-- `limited` for each of several trees. -/
def limitedItems (room : Nat) : List Tree → List Tree
  | [] => []
  | item :: items => limited room item :: limitedItems room items

/-- `limited` for the values of members. -/
def limitedMembers (room : Nat) : List (Tree × Tree) → List (Tree × Tree)
  | [] => []
  | (key, value) :: members => (limited room key, limited room value) :: limitedMembers room members

end

/-! ## The tree of a value -/

mutual

/-- The tree that the written form of a JSON value is read as. -/
def ofJson : Json → Tree
  | .null => .scalar .null
  | .bool value => .scalar (.bool value)
  | .number value => .scalar (.number value)
  | .string text => .scalar (.string text)
  | .array items => .sequence (ofJsonItems items) true none
  | .object members => .mapping (ofJsonMembers members) true none

/-- The trees of JSON values, in order. -/
def ofJsonItems : List Json → List Tree
  | [] => []
  | item :: items => ofJson item :: ofJsonItems items

/-- The members of a JSON object as trees, in order. -/
def ofJsonMembers : List (String × Json) → List (Tree × Tree)
  | [] => []
  | (name, value) :: members => (.scalar (.string name), ofJson value) :: ofJsonMembers members

end

end Tree

end ApiTypes.Source
