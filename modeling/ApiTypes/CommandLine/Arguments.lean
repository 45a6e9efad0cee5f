import ApiTypes.Json.Basic
import ApiTypes.Text.Pieces

/-!
# Arguments

The arguments of one command: options, with or without values, up to the first argument that is
none.

* `OptionSpec` — an option that a command knows.
* `Given` — the options that were given, with their values.
* `readOptions` — the options at the beginning of a list of arguments, and the arguments after them.
-/

namespace ApiTypes.CommandLine

/-! ## Options -/

/-- Why no command is run. -/
inductive Stop where
  /-- Help was asked for. -/
  | help
  /-- The version was asked for. -/
  | version
  /-- The arguments do not fit. -/
  | misuse
  deriving DecidableEq, Repr

/-- What the value of an option may be. -/
inductive ValueKind where
  | text
  /-- A path, which is not empty. -/
  | path
  | oneOf (names : List String)
  deriving DecidableEq, Repr

/-- What an option does with the arguments. -/
inductive OptionKind where
  /-- It takes no value. -/
  | switch
  /-- It takes a value. -/
  | value (kind : ValueKind)
  /-- It takes a text, and may be given again. -/
  | repeated
  /-- It stops the reading. -/
  | stop (why : Stop)
  deriving DecidableEq, Repr

/-- An option that a command knows. -/
structure OptionSpec where
  name : String
  letter : Option Char := none
  kind : OptionKind := .switch
  deriving DecidableEq, Repr

/-- Whether a text may be a value. -/
def ValueKind.allows : ValueKind → String → Bool
  | .text, _ => true
  | .path, s => !s.isEmpty
  | .oneOf names, s => names.contains s

/-- Whether an option takes values. -/
def OptionSpec.takesValue (o : OptionSpec) : Bool :=
  match o.kind with
  | .value _ | .repeated => true
  | .switch | .stop _ => false

/-! ## Options given -/

/-- The options that were given, with their values, in order.  Those without values have empty
ones. -/
abbrev Given := List (String × String)

namespace Given

/-- Whether an option was given. -/
def has (given : Given) (name : String) : Bool :=
  Members.has given name

/-- The last value of an option. -/
def value? (given : Given) (name : String) : Option String :=
  Members.get? given.reverse name

/-- The values of an option, in order. -/
def values (given : Given) (name : String) : List String :=
  (given.filter (·.1 = name)).map (·.2)

/-- The options with one more, if it may be given so: no option is given twice but those that may
be repeated. -/
def add (given : Given) (o : OptionSpec) (value : String) : Except Stop Given :=
  let extended := given ++ [(o.name, value)]
  match o.kind with
  | .stop why => .error why
  | .repeated => .ok extended
  | .switch => if given.has o.name then .error .misuse else .ok extended
  | .value kind =>
    if given.has o.name || !kind.allows value then .error .misuse else .ok extended

end Given

/-! ## Reading -/

/-- Whether an argument looks like an option, so that it is no value. -/
def looksLikeOption (argument : String) : Bool :=
  match argument.toList with
  | '-' :: _ :: _ => true
  | _ => false

/-- The options with those of a group of letters.  The first that takes a value has the rest of the
group for it, after an equals sign if there is one; when nothing is left, the value is still to
come. -/
def readLetters (options : List OptionSpec) :
    List Char → Given → Except Stop (Given × Option OptionSpec)
  | [], given => .ok (given, none)
  | c :: cs, given => do
    match options.find? (·.letter = some c) with
    | none => throw .misuse
    | some o =>
      if o.takesValue then
        match cs with
        | [] => return (given, some o)
        | '=' :: value => return (← given.add o (String.ofList value), none)
        | value => return (← given.add o (String.ofList value), none)
      else
        let given ← given.add o ""
        readLetters options cs given

/-- The options with one that is spelled out, with or without an equals sign and a value; the
option, if its value is still to come. -/
def readName (options : List OptionSpec) (spelled : List Char) (given : Given) :
    Except Stop (Given × Option OptionSpec) := do
  let (name, attached) := match Text.splitAtFirst '=' spelled with
    | some (name, value) => (name, some (String.ofList value))
    | none => (spelled, none)
  match options.find? (·.name.toList = name) with
  | none => throw .misuse
  | some o =>
    match o.takesValue, attached with
    | true, some value => return (← given.add o value, none)
    | true, none => return (given, some o)
    | false, some _ => throw .misuse
    | false, none => return (← given.add o "", none)

/-- **The options at the beginning of the arguments**, and the arguments after them.  An option
whose value is still to come takes the next argument, unless that looks like an option. -/
def readOptions (options : List OptionSpec) :
    List String → Given → Option OptionSpec → Except Stop (Given × List String)
  | [], given, none => .ok (given, [])
  | [], _, some _ => .error .misuse
  | argument :: rest, given, some o =>
    if looksLikeOption argument then .error .misuse
    else do
      let given ← given.add o argument
      readOptions options rest given none
  | argument :: rest, given, none =>
    match argument.toList with
    | ['-', '-'] => if rest.isEmpty then .ok (given, []) else .error .misuse
    | '-' :: '-' :: spelled => do
      let (given, awaiting) ← readName options spelled given
      readOptions options rest given awaiting
    | '-' :: c :: letters => do
      let (given, awaiting) ← readLetters options (c :: letters) given
      readOptions options rest given awaiting
    | _ => .ok (given, argument :: rest)

end ApiTypes.CommandLine
