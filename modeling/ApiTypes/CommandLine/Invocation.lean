import ApiTypes.CommandLine.Arguments
import ApiTypes.Config
import ApiTypes.Text.Blank

/-!
# Invocations

What the arguments of the program ask for.

* `Invocation` — a command, with the options that all commands share.
* `Invocation.ofArguments` — the invocation that arguments stand for.
* `Generation.config` — the configuration of a run.
-/

namespace ApiTypes.CommandLine

/-! ## Commands -/

/-- When the output is colored. -/
inductive ColorMode where
  | always
  | auto
  | never
  deriving DecidableEq, Repr

/-- The background that colors are chosen for. -/
inductive ThemeMode where
  | dark
  | light
  | auto
  deriving DecidableEq, Repr

/-- The options that all commands share. -/
structure SharedOptions where
  color : ColorMode := .auto
  theme : ThemeMode := .auto
  verbose : Bool := false
  quiet : Bool := false
  deriving DecidableEq, Repr

/-- The things of a document that can be listed. -/
inductive Listing where
  | operations
  | models
  deriving DecidableEq, Repr

/-- What is to be generated, and how. -/
structure Generation where
  input : String
  /-- Where the result goes; to the standard output when there is no such path. -/
  output : Option String := none
  pretty : Bool := false
  fixedWidthIntegers : Bool := false
  excludedBodies : List String := []
  /-- New names of response types, each after its old name and an equals sign. -/
  renames : List String := []
  defaultTag : Option String := none
  keepNamespace : Bool := false
  deriving DecidableEq, Repr

/-- A command. -/
inductive Command where
  | list (listing : Listing) (input : String)
  | generate (generation : Generation)
  deriving DecidableEq, Repr

/-- A command, with the options that all commands share. -/
structure Invocation where
  command : Command
  shared : SharedOptions
  deriving DecidableEq, Repr

/-- The path of the document that a command reads. -/
def Command.input : Command → String
  | .list _ input => input
  | .generate generation => generation.input

/-! ## Options of the commands -/

/-- The color modes by their names. -/
def ColorMode.names : List (String × ColorMode) :=
  [("always", .always), ("auto", .auto), ("never", .never)]

/-- The theme modes by their names. -/
def ThemeMode.names : List (String × ThemeMode) :=
  [("dark", .dark), ("light", .light), ("auto", .auto)]

/-- The options of every command. -/
def sharedOptions : List OptionSpec :=
  [{ name := "color", kind := .value (.oneOf (Members.names ColorMode.names)) },
    { name := "theme", kind := .value (.oneOf (Members.names ThemeMode.names)) },
    { name := "verbose", letter := some 'v' }, { name := "quiet", letter := some 'q' },
    { name := "help", letter := some 'h', kind := .stop .help }]

/-- The options before the command. -/
def rootOptions : List OptionSpec :=
  sharedOptions ++ [{ name := "version", letter := some 'V', kind := .stop .version }]

/-- The option for the path of the document. -/
def inputOption : OptionSpec :=
  { name := "input", letter := some 'i', kind := .value .path }

/-- The options of lists. -/
def listingOptions : List OptionSpec :=
  sharedOptions ++ [inputOption]

/-- The options of generations. -/
def generationOptions : List OptionSpec :=
  sharedOptions ++
    [inputOption, { name := "output", letter := some 'o', kind := .value .path },
      { name := "pretty" }, { name := "fixed-width-integers" },
      { name := "exclude-body", kind := .repeated },
      { name := "rename-response", kind := .repeated },
      { name := "default-tag", kind := .value .text }, { name := "keep-operation-namespace" }]

/-! ## Reading invocations -/

/-- The options of one command.  It cannot be both verbose and quiet. -/
def readCommandOptions (options : List OptionSpec) (arguments : List String) :
    Except Stop (Given × List String) := do
  let (given, rest) ← readOptions options arguments [] none
  if given.has "verbose" && given.has "quiet" then throw .misuse
  return (given, rest)

/-- The options of a command that nothing follows. -/
def readLastOptions (options : List OptionSpec) (arguments : List String) : Except Stop Given := do
  match ← readCommandOptions options arguments with
  | (given, []) => return given
  | _ => throw .misuse

/-- The path of the document, which has to be given. -/
def Given.input (given : Given) : Except Stop String :=
  match given.value? "input" with
  | some path => .ok path
  | none => .error .misuse

/-- The options that all commands share, given before or after the command.  The last of two
values counts. -/
def SharedOptions.ofGiven (given : Given) : SharedOptions :=
  { color := ((given.value? "color").bind (Members.get? ColorMode.names)).getD .auto
    theme := ((given.value? "theme").bind (Members.get? ThemeMode.names)).getD .auto
    verbose := given.has "verbose"
    quiet := given.has "quiet" }

/-- The generation that options ask for. -/
def Generation.ofGiven (given : Given) : Except Stop Generation := do
  return {
    input := ← given.input
    output := given.value? "output"
    pretty := given.has "pretty"
    fixedWidthIntegers := given.has "fixed-width-integers"
    excludedBodies := (given.values "exclude-body").flatMap fun names =>
      (Text.splitOnChar ',' names.toList).map String.ofList
    renames := given.values "rename-response"
    defaultTag := given.value? "default-tag"
    keepNamespace := given.has "keep-operation-namespace" }

/-- The paths of commands that help can be asked for. -/
def helpTopics : List (List String) :=
  [[], ["list"], ["list", "operations"], ["list", "models"], ["generate"], ["help"],
    ["list", "help"]]

/-- What asking for help on a command comes to. -/
def helpOn (topic : List String) : Stop :=
  if helpTopics.contains topic then .help else .misuse

/-- The listing that arguments ask for, with the options given on the way. -/
def readListing (arguments : List String) : Except Stop (Command × Given) := do
  let (before, rest) ← readCommandOptions sharedOptions arguments
  let finish (listing : Listing) (rest : List String) : Except Stop (Command × Given) := do
    let given ← readLastOptions listingOptions rest
    return (.list listing (← given.input), before ++ given)
  match rest with
  | "operations" :: rest => finish .operations rest
  | "models" :: rest => finish .models rest
  | "help" :: topic => throw (helpOn ("list" :: topic))
  | _ => throw .misuse

/-- **The invocation that arguments stand for.** -/
def Invocation.ofArguments (arguments : List String) : Except Stop Invocation := do
  let (before, rest) ← readOptions rootOptions arguments [] none
  let (command, given) ← match rest with
    | "generate" :: rest => do
      let given ← readLastOptions generationOptions rest
      pure (Command.generate (← Generation.ofGiven given), given)
    | "list" :: rest => readListing rest
    | "help" :: topic => throw (helpOn topic)
    | _ => throw .misuse
  if before.has "verbose" && before.has "quiet" then throw .misuse
  return { command := command, shared := .ofGiven (before ++ given) }

/-! ## The configuration of a generation -/

/-- The old and the new name in a text with an equals sign between them; the text, if there is
none. -/
def readRename (entry : String) : Except String (String × String) :=
  match Text.splitAtFirst '=' entry.toList with
  | some (old, new) => .ok (Text.trim (String.ofList old), Text.trim (String.ofList new))
  | none => .error entry

/-- The new names of response types; the first entry that is none, if there is one.  The last of
two new names counts. -/
def readRenames (entries : List String) : Except String (List (String × String)) := do
  let renames ← entries.mapM readRename
  return renames.foldl (fun found (old, new) => Members.put found old new) []

/-- The configuration of a generation; the first entry that is no new name, if there is one. -/
def Generation.config (g : Generation) : Except String Config := do
  let renames ← readRenames g.renames
  return {
    addressSizedIntegers := !g.fixedWidthIntegers
    excludedBodies := g.excludedBodies
    responseNames := renames
    defaultTag := g.defaultTag.getD ({} : Config).defaultTag
    stripNamespace := !g.keepNamespace }

end ApiTypes.CommandLine
