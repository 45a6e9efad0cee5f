import ApiTypes.Document.Format
import ApiTypes.Report.Error

/-!
# Failures

* `Failure` — why a command does not do what it was asked for.
* `Failure.report` — what it prints then: the failure, and what caused it.
-/

namespace ApiTypes.CommandLine

/-- Why a command fails. -/
inductive Failure where
  /-- An entry gives no new name to a type. -/
  | invalidRename (entry : String)
  /-- The document cannot be opened. -/
  | unopened (path : String)
  /-- The document cannot be read. -/
  | unparsed (path : String) (format : Format)
  /-- The document of a generation cannot be resolved. -/
  | unresolved (path : String) (error : ResolveError)
  /-- The document of a listing cannot be resolved. -/
  | unlisted (error : ResolveError)
  /-- The result cannot be written. -/
  | unwritten (path : String)

namespace Failure

/-- The wording of a failure. -/
def message : Failure → String
  | .invalidRename entry =>
    "Invalid rename format '" ++ entry ++
      "': expected TYPE=NAME (e.g., InlineResponse200=Widget)"
  | .unopened path => "failed to open " ++ path
  | .unparsed path _ => "failed to parse " ++ path
  | .unresolved path _ => "failed to resolve " ++ path
  | .unlisted error => error.message
  | .unwritten path => "failed to write " ++ path

/-- The wording of what caused a failure, if something else did. -/
def cause : Failure → Option String
  | .unparsed _ .json => some "invalid JSON document"
  | .unparsed _ .yaml => some "invalid YAML document"
  | .unresolved _ error => some error.message
  | _ => none

/-- A text whose lines are all indented. -/
def indented (text : String) : String :=
  let lines := Text.splitOnChar '\n' text.toList
  "\n".intercalate (lines.map fun line => "    " ++ String.ofList line)

/-- **What a command prints when it fails.** -/
def report (f : Failure) : String :=
  "Error: " ++ f.message ++ "\n" ++
    match f.cause with
    | some cause => "\nCaused by:\n" ++ indented cause ++ "\n"
    | none => ""

end Failure

end ApiTypes.CommandLine
