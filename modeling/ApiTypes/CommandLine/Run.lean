import ApiTypes.CommandLine.Failure
import ApiTypes.CommandLine.Palette
import ApiTypes.CommandLine.Table
import ApiTypes.Descriptor.Json.Result
import ApiTypes.Resolution.Document
import ApiTypes.Text.Latin

/-!
# Running commands

What a command prints and writes, given what stands in the file that it reads.

* `Outcome` — what a command prints and writes.
* `Surroundings` — what a command needs to know beside its arguments.
* `Generation.run`, `Listing.run` — the outcomes of the commands.
* `Invocation.run` — the outcome of an invocation.
-/

namespace ApiTypes.CommandLine

/-! ## Outcomes -/

/-- A file that a command writes. -/
structure OutputFile where
  path : String
  content : String
  /-- What is printed when the file has been written. -/
  success : String
  deriving DecidableEq, Repr

/-- What a command prints, on both channels, and the file that it writes after that. -/
structure Outcome where
  output : String := ""
  messages : String := ""
  exitCode : Nat := 0
  file : Option OutputFile := none
  deriving DecidableEq, Repr

/-- The outcome of a command that fails after some output. -/
def Outcome.failed (output : String) (f : Failure) : Outcome :=
  { output := output, messages := f.report, exitCode := 1 }

/-- What a command needs to know beside its arguments. -/
structure Surroundings where
  /-- The time of the day, as it is printed. -/
  clock : String
  terminal : Terminal := {}
  deriving DecidableEq, Repr

/-- The document in a file of some content; there is none when the file cannot be opened. -/
def loadDocument (path : String) (content : Option String) : Except Failure ApiDocument :=
  match content with
  | none => .error (.unopened path)
  | some text =>
    let format := Format.ofPath path
    match format.parse text with
    | .ok document => .ok document
    | .error _ => .error (.unparsed path format)

/-! ## Generations -/

/-- A generation with its options, colors and clock. -/
structure Session where
  generation : Generation
  shared : SharedOptions
  palette : Palette
  clock : String

namespace Session

/-- Whether progress is told.  It is not when the result goes to the standard output. -/
def isChatty (s : Session) : Bool :=
  !s.shared.quiet && s.generation.output.isSome

/-- A line of the progress. -/
def line (s : Session) (ink : Ink) (text : String) : String :=
  s.palette.paint .timestamp s.clock ++ " " ++ s.palette.paint ink text ++ "\n"

/-- A text that is only printed when progress is told. -/
def told (s : Session) (text : String) : String :=
  if s.isChatty then text else ""

/-- A step of the progress. -/
def step (s : Session) (text : String) : String :=
  s.told (s.line .primary text)

/-- A line of the statistics. -/
def count (s : Session) (label value : String) : String :=
  s.told ("            " ++ s.palette.paint .label label ++ " " ++ s.palette.paint .value value ++
    "\n")

/-- The statistics of a run. -/
def statistics (s : Session) (stats : Statistics) : String :=
  s.count "Models resolved:" stats.modelsResolved.repr ++
    s.count "" (stats.unionModels.repr ++ " unions") ++
    s.count "" (stats.mapLikeModels.repr ++ " map-like") ++
    s.count "Operations converted:" stats.operationsConverted.repr ++
    s.count "Models renamed:" stats.modelsRenamed.repr ++
    s.count "Models dropped:" stats.modelsDropped.repr ++
    if stats.warnings.isEmpty then "" else s.count "Warnings:" stats.warnings.length.repr

/-- Whether a warning is printed: none in quiet runs, and those about names in verbose runs. -/
def shows (s : Session) (w : Warning) : Bool :=
  !s.shared.quiet && (!w.isNaming || s.shared.verbose)

/-- The line of a warning. -/
def warning (s : Session) (w : Warning) : String :=
  s.palette.paint .accent "Warning:" ++ " " ++ s.palette.paint .primary w.message ++ "\n"

/-- The lines of the warnings that are printed. -/
def warnings (s : Session) (ws : List Warning) : String :=
  String.join ((ws.filter s.shows).map s.warning)

/-- The text of a result. -/
def written (s : Session) (api : TypedApi) : String :=
  if s.generation.pretty then api.toJson.pretty else api.toJson.compact

/-- The outcome when the document is resolved. -/
def finish (s : Session) (told : String) (api : TypedApi) (stats : Statistics) : Outcome :=
  let told := told ++ s.statistics stats
  let messages := s.warnings stats.warnings
  match s.generation.output with
  | none => { output := told ++ s.written api ++ "\n", messages := messages }
  | some path =>
    { output := told ++ s.step ("Writing to: " ++ path)
      messages := messages
      file := some
        { path := path
          content := s.written api
          success := s.told ("\n" ++ s.line .success "Successfully resolved document") } }

/-- The outcome of a generation with a configuration. -/
def run (s : Session) (config : Config) (content : Option String) : Outcome :=
  let input := s.generation.input
  let loading := s.step ("Loading document from: " ++ input)
  match loadDocument input content with
  | .error f => .failed loading f
  | .ok document =>
    let resolving := loading ++ s.step "Resolving types..."
    match document.resolve config with
    | .error e => .failed resolving (.unresolved input e)
    | .ok (api, stats) => s.finish resolving api stats

end Session

/-- The outcome of a generation. -/
def Generation.run (g : Generation) (shared : SharedOptions) (surroundings : Surroundings)
    (content : Option String) : Outcome :=
  match g.config with
  | .error entry => .failed "" (.invalidRename entry)
  | .ok config =>
    Session.run ⟨g, shared, .ofOptions shared surroundings.terminal, surroundings.clock⟩ config
      content

/-! ## Listings -/

/-- The operations of a result in the order of their nicknames. -/
def sortedOperations (api : TypedApi) : List OperationDescriptor :=
  api.operations.mergeSort fun a b => !decide (b.nickname < a.nickname)

/-- The table of the operations of a result. -/
def operationTable (api : TypedApi) : Table :=
  { columns := [⟨"METHOD NAME", false⟩, ⟨"METHOD", true⟩, ⟨"PATH", false⟩, ⟨"TAG", false⟩]
    rows := (sortedOperations api).map fun o => [o.nickname, o.httpMethod, o.path, o.tag] }

/-- The table of the models of a result. -/
def modelTable (api : TypedApi) : Table :=
  { columns := [⟨"CLASS NAME", false⟩, ⟨"KEY", false⟩, ⟨"FLAGS", false⟩]
    rows := api.models.map fun (_, m) =>
      [m.className, m.key, ", ".intercalate (m.flags.map ModelFlag.name)] }

/-- The table of a listing. -/
def Listing.table : Listing → TypedApi → Table
  | .operations => operationTable
  | .models => modelTable

/-- The outcome of a listing. -/
def Listing.run (listing : Listing) (input : String) (content : Option String) : Outcome :=
  match loadDocument input content with
  | .error f => .failed "" f
  | .ok document =>
    match document.resolve {} with
    | .error e => .failed "" (.unlisted e)
    | .ok (api, _) => { output := (listing.table api).render }

/-! ## Invocations -/

/-- **The outcome of an invocation**, given what stands in the file that it reads. -/
def Invocation.run (i : Invocation) (surroundings : Surroundings) (content : Option String) :
    Outcome :=
  match i.command with
  | .list listing input => listing.run input content
  | .generate generation => generation.run i.shared surroundings content

/-! ## Arguments that ask for no command -/

/-- How the program is used. -/
def usageText : String :=
  "Usage: api-types [OPTIONS] generate -i <FILE> [-o <FILE>] [OPTIONS]\n" ++
    "       api-types [OPTIONS] list operations -i <FILE>\n" ++
    "       api-types [OPTIONS] list models -i <FILE>\n"

/-- The version of the program. -/
def versionText : String :=
  "api-types 0.4.0\n"

/-- The outcome when arguments ask for no command. -/
def Stop.outcome : Stop → Outcome
  | .help => { output := usageText }
  | .version => { output := versionText }
  | .misuse => { messages := usageText, exitCode := 2 }

end ApiTypes.CommandLine
