import ApiTypes.Yaml.Token
import ApiTypes.Yaml.Word

/-!
# Reading YAML text

From tokens to the tree of a text.

* `node` — the tree of one node; blocks, bracketed sequences and mappings below it.
* `read` — the tree of a text with at most one document in it.

An alias stands for the whole tree that was given its name.  Every step takes a token or goes one
level down, so a number of steps in proportion to the tokens suffices.
-/

namespace ApiTypes.Yaml

open Source (Tree)

/-- Trees by the names of their anchors, latest first. -/
abbrev Anchors := List (String × Tree)

/-- The tokens that are left, and the anchors so far. -/
abbrev Rest := List Token × Anchors

/-- A value that is not there. -/
def nothing : Tree :=
  .word "" .null

/-- The tree of a text; a tag may say that it is a string. -/
def plainTree (tag : Option String) (text : String) : Tree :=
  if tag = some "!!str" then .scalar (.string text) else .word text (wordValue text)

/-- Anchor and tag before a node. -/
def properties : List Token → (anchor tag : Option String) →
    Option (Option String × Option String × List Token)
  | .anchor name :: rest, none, tag => properties rest (some name) tag
  | .tag name :: rest, anchor, none => properties rest anchor (some name)
  | tokens, anchor, tag => some (anchor, tag, tokens)

/-- Whether an item or value is missing before a token. -/
def isMissing (ends : List Token) : List Token → Bool
  | [] => true
  | t :: _ => ends.contains t || t = .documentStart || t = .documentEnd

mutual

/-- The tree of a node.  `block` holds where a block may begin, `level` where the items of a
sequence may stand without a deeper column. -/
def node : (steps : Nat) → (block level : Bool) → List Token → Anchors → Option (Tree × Rest)
  | 0, _, _, _, _ => none
  | steps + 1, block, level, tokens, anchors => do
    match tokens with
    | .alias name :: rest =>
      let tree ← Members.get? anchors name
      return (tree, rest, anchors)
    | _ =>
      let (anchor, tag, rest) ← properties tokens none none
      let (tree, rest, anchors) ← content steps block level (anchor.isSome || tag.isSome) tag rest
        anchors
      match anchor with
      | some name => return (tree, rest, (name, tree) :: anchors)
      | none => return (tree, rest, anchors)

/-- The tree of a node behind its anchor and tag. -/
def content : (steps : Nat) → (block level marked : Bool) → (tag : Option String) →
    List Token → Anchors → Option (Tree × Rest)
  | 0, _, _, _, _, _, _ => none
  | steps + 1, block, level, marked, tag, tokens, anchors => do
    match tokens with
    | .plain text :: rest => return (plainTree tag text, rest, anchors)
    | .text text :: rest => return (.scalar (.string text), rest, anchors)
    | .openSequence :: rest =>
      let (items, rest, anchors) ← flowItems steps true rest anchors
      return (.sequence items false none, rest, anchors)
    | .openMapping :: rest =>
      let (members, rest, anchors) ← flowMembers steps true rest anchors
      return (.mapping members false none, rest, anchors)
    | .entry :: _ =>
      if level then
        let (items, rest, anchors) ← levelItems steps tokens anchors
        return (.sequence items false none, rest, anchors)
      else if marked then return (nothing, tokens, anchors)
      else none
    | .blockSequence :: rest =>
      if block then
        let (items, rest, anchors) ← blockItems steps rest anchors
        return (.sequence items false none, rest, anchors)
      else if marked then return (nothing, tokens, anchors)
      else none
    | .blockMapping :: rest =>
      if block then
        let (members, rest, anchors) ← blockMembers steps rest anchors
        return (.mapping members false none, rest, anchors)
      else if marked then return (nothing, tokens, anchors)
      else none
    | _ => if marked then return (nothing, tokens, anchors) else none

/-- A node, or nothing before one of the given tokens. -/
def optional : (steps : Nat) → (block level : Bool) → (ends : List Token) →
    List Token → Anchors → Option (Tree × Rest)
  | 0, _, _, _, _, _ => none
  | steps + 1, block, level, ends, tokens, anchors =>
    if isMissing ends tokens then some (nothing, tokens, anchors)
    else node steps block level tokens anchors

/-- The items of a block sequence, up to the end of the block. -/
def blockItems : (steps : Nat) → List Token → Anchors → Option (List Tree × Rest)
  | 0, _, _ => none
  | steps + 1, tokens, anchors => do
    match tokens with
    | .entry :: rest =>
      let (item, rest, anchors) ← optional steps true false [.entry, .blockEnd] rest anchors
      let (items, rest, anchors) ← blockItems steps rest anchors
      return (item :: items, rest, anchors)
    | .blockEnd :: rest => return ([], rest, anchors)
    | _ => none

/-- The items of a sequence that stands at the column of its key. -/
def levelItems : (steps : Nat) → List Token → Anchors → Option (List Tree × Rest)
  | 0, _, _ => none
  | steps + 1, tokens, anchors => do
    match tokens with
    | .entry :: rest =>
      let (item, rest, anchors) ← optional steps true false [.entry, .key, .value, .blockEnd] rest
        anchors
      let (items, rest, anchors) ← levelItems steps rest anchors
      return (item :: items, rest, anchors)
    | _ => return ([], tokens, anchors)

/-- The members of a block mapping, up to the end of the block. -/
def blockMembers : (steps : Nat) → List Token → Anchors → Option (List (Tree × Tree) × Rest)
  | 0, _, _ => none
  | steps + 1, tokens, anchors => do
    match tokens with
    | .key :: rest =>
      let (key, rest, anchors) ← optional steps true true [.key, .value, .blockEnd] rest anchors
      let (value, rest, anchors) ← match rest with
        | .value :: rest => optional steps true true [.key, .value, .blockEnd] rest anchors
        | rest => some (nothing, rest, anchors)
      let (members, rest, anchors) ← blockMembers steps rest anchors
      return ((key, value) :: members, rest, anchors)
    | .blockEnd :: rest => return ([], rest, anchors)
    | _ => none

/-- The items of a sequence in brackets, up to the closing bracket.  A key among them begins a
mapping of one member. -/
def flowItems : (steps : Nat) → (first : Bool) → List Token → Anchors → Option (List Tree × Rest)
  | 0, _, _, _ => none
  | steps + 1, first, tokens, anchors => do
    match tokens with
    | .closeSequence :: rest => return ([], rest, anchors)
    | tokens =>
      let tokens ← if first then some tokens
        else match tokens with
          | .separator :: rest => some rest
          | _ => none
      match tokens with
      | .closeSequence :: rest => return ([], rest, anchors)
      | .key :: rest =>
        let (key, rest, anchors) ←
          optional steps false false [.value, .separator, .closeSequence] rest anchors
        let (value, rest, anchors) ← match rest with
          | .value :: rest => optional steps false false [.separator, .closeSequence] rest anchors
          | rest => some (nothing, rest, anchors)
        let (items, rest, anchors) ← flowItems steps false rest anchors
        return (.mapping [(key, value)] false none :: items, rest, anchors)
      | tokens =>
        let (item, rest, anchors) ← node steps false false tokens anchors
        let (items, rest, anchors) ← flowItems steps false rest anchors
        return (item :: items, rest, anchors)

/-- The members of a mapping in brackets, up to the closing bracket. -/
def flowMembers : (steps : Nat) → (first : Bool) → List Token → Anchors →
    Option (List (Tree × Tree) × Rest)
  | 0, _, _, _ => none
  | steps + 1, first, tokens, anchors => do
    match tokens with
    | .closeMapping :: rest => return ([], rest, anchors)
    | tokens =>
      let tokens ← if first then some tokens
        else match tokens with
          | .separator :: rest => some rest
          | _ => none
      match tokens with
      | .closeMapping :: rest => return ([], rest, anchors)
      | .key :: rest =>
        let (key, rest, anchors) ←
          optional steps false false [.value, .separator, .closeMapping] rest anchors
        let (value, rest, anchors) ← match rest with
          | .value :: rest => optional steps false false [.separator, .closeMapping] rest anchors
          | rest => some (nothing, rest, anchors)
        let (members, rest, anchors) ← flowMembers steps false rest anchors
        return ((key, value) :: members, rest, anchors)
      | tokens =>
        let (key, rest, anchors) ← node steps false false tokens anchors
        let (members, rest, anchors) ← flowMembers steps false rest anchors
        return ((key, nothing) :: members, rest, anchors)

end

/-- Whether nothing but ends of documents is left. -/
def isOver (tokens : List Token) : Bool :=
  tokens.all (· = .documentEnd)

/-- How many containers may be nested in one another. -/
def greatestDepth : Nat :=
  128

/-- The node that a document consists of, and the tokens behind it. -/
def document (body : List Token) : Option (Tree × List Token) := do
  let (tree, rest, _) ← node (4 * body.length + 8) true false body []
  return (tree, rest)

/-- **The tree of a YAML text** with one document in it, or with none.  A document needs a mark in
front only behind directives or where it has no node. -/
def read (text : String) : Option Tree := do
  let tokens ← Token.scan text.toList
  let (tree, rest) ← match tokens.dropWhile (· = .directive) with
    | .documentStart :: body =>
      if isMissing [.directive] body then some (nothing, body) else document body
    | body =>
      if body.length < tokens.length then none
      else if body.isEmpty then some (nothing, [])
      else document body
  if isOver rest then return tree.limited greatestDepth else none

end ApiTypes.Yaml
