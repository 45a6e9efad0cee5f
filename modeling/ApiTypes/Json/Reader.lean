import ApiTypes.Json.Token

/-!
# Reading JSON text

From tokens to the tree of a text.  One pass over the tokens builds the tree with a stack of the
containers that are open.  Where the text breaks, all of them are closed with the break.

* `Frame` — an open container, with what it holds so far.
* `Reading` — where the pass stands; `Reading.step` takes one token.
* `readDeep`, `read` — the tree of a text, nested to any depth or to the greatest one allowed.
-/

namespace ApiTypes.Json

open Source (Break Scalar Tree)

/-- An open container.  Items and members are held latest first. -/
inductive Frame where
  | array (items : List Tree)
  | object (members : List (Tree × Tree))
  /-- An object whose latest key still has no value. -/
  | member (members : List (Tree × Tree)) (key : Tree)

/-- What may come next in the text. -/
inductive Place where
  /-- A value. -/
  | value
  /-- The first item of an array, or its end. -/
  | firstItem
  /-- The first key of an object, or its end. -/
  | firstKey
  /-- A key. -/
  | key
  /-- The colon behind a key. -/
  | colon
  /-- A comma, or the end of the container. -/
  | next

/-- Where a pass over tokens stands. -/
inductive Reading where
  /-- In the middle of a text, inside the given containers, innermost first. -/
  | within (frames : List Frame) (place : Place)
  /-- Behind a whole value. -/
  | complete (root : Tree)
  /-- Behind the place where the text broke. -/
  | over (document : Source.Document)

namespace Reading

/-- A value has been read: it goes into the innermost open container. -/
def supply (value : Tree) : List Frame → Reading
  | [] => .complete value
  | .array items :: frames => .within (.array (value :: items) :: frames) .next
  | .member members key :: frames => .within (.object ((key, value) :: members) :: frames) .next
  | .object members :: frames => .within (.object members :: frames) .next

/-- Closes the open containers around a value that holds a break. -/
def unwind (how : Break) (value : Tree) : List Frame → Tree
  | [] => value
  | .array items :: frames =>
    unwind how (.sequence (value :: items).reverse true (some how)) frames
  | .member members key :: frames =>
    unwind how (.mapping ((key, value) :: members).reverse true (some how)) frames
  | .object members :: frames => unwind how (.mapping members.reverse true (some how)) frames

/-- The text breaks in place of a value. -/
def breakValue (read : Break) (skip : Break) (frames : List Frame) : Reading :=
  .over ⟨unwind skip (.unreadable read (some skip)) frames, none⟩

/-- The text breaks between the parts of the innermost container. -/
def breakBetween (how : Break) : List Frame → Reading
  | [] => .over ⟨.unreadable how (some how), none⟩
  | .array items :: frames =>
    .over ⟨unwind how (.sequence items.reverse true (some how)) frames, none⟩
  | .object members :: frames =>
    .over ⟨unwind how (.mapping members.reverse true (some how)) frames, none⟩
  | .member members key :: frames => breakValue how how (.member members key :: frames)

/-- Ends the innermost container. -/
def close : List Frame → Reading
  | .array items :: frames => supply (.sequence items.reverse true none) frames
  | .object members :: frames => supply (.mapping members.reverse true none) frames
  | frames => breakBetween .malformed frames

/-- Takes a token in place of a value. -/
def stepValue (frames : List Frame) : Token → Reading
  | .scalar value => supply (.scalar value) frames
  | .badString read none => supply (.unreadable read none) frames
  | .badScalar read none => supply (.unreadable read none) frames
  | .badString read (some skip) => breakValue read skip frames
  | .badScalar read (some skip) => breakValue read skip frames
  | .openArray => .within (.array [] :: frames) .firstItem
  | .openObject => .within (.object [] :: frames) .firstKey
  | _ => breakValue .malformed .malformed frames

/-- Takes a token in place of a key. -/
def stepKey (frames : List Frame) (token : Token) : Reading :=
  match frames, token with
  | .object members :: frames, .scalar (.string name) =>
    .within (.member members (.scalar (.string name)) :: frames) .colon
  | .object members :: frames, .badString read none =>
    .within (.member members (.unreadable read none) :: frames) .colon
  | .object members :: frames, .badString read (some skip) =>
    breakValue skip skip (.member members (.unreadable read (some skip)) :: frames)
  | frames, _ => breakBetween .malformed frames

/-- Takes one token. -/
def step : Reading → Token → Reading
  | .over document, _ => .over document
  | .complete root, _ => .over ⟨root, some .malformed⟩
  | .within frames .value, token => stepValue frames token
  | .within frames .firstItem, .closeArray => close frames
  | .within frames .firstItem, token => stepValue frames token
  | .within frames .firstKey, .closeObject => close frames
  | .within frames .firstKey, token => stepKey frames token
  | .within frames .key, token => stepKey frames token
  | .within frames .colon, .colon => .within frames .value
  | .within frames .colon, _ => breakValue .malformed .malformed frames
  | .within (.array items :: frames) .next, .comma => .within (.array items :: frames) .value
  | .within (.array items :: frames) .next, .closeArray => close (.array items :: frames)
  | .within (.object members :: frames) .next, .comma => .within (.object members :: frames) .key
  | .within (.object members :: frames) .next, .closeObject => close (.object members :: frames)
  | .within frames .next, _ => breakBetween .malformed frames

/-- The text ends. -/
def finish : Reading → Source.Document
  | .over document => document
  | .complete root => ⟨root, none⟩
  | .within frames place =>
    let reading := match place, frames with
      | .value, _ | .colon, _ => breakValue .endOfText .endOfText frames
      | .key, .object members :: frames =>
        let key := Tree.unreadable .endOfText (some .endOfText)
        breakValue .endOfText .endOfText (.member members key :: frames)
      | _, _ => breakBetween .endOfText frames
    match reading with
    | .over document => document
    | _ => ⟨.unreadable .endOfText (some .endOfText), none⟩

end Reading

/-- How many containers may be nested in one another. -/
def greatestDepth : Nat :=
  127

/-- The tree of a JSON text, with containers nested to any depth. -/
def readDeep (text : String) : Source.Document :=
  ((Token.scan text.toList).foldl Reading.step (.within [] .value)).finish

/-- **The tree of a JSON text.** -/
def read (text : String) : Source.Document :=
  let document := readDeep text
  { document with root := document.root.limited greatestDepth }

end ApiTypes.Json
