import ApiTypes.CommandLine.Run
import Std.Time.Zoned

/-!
# The program

* `main` — reads the arguments, the file that they name and the surroundings, and prints and writes
  what comes of it.
-/

namespace ApiTypes.CommandLine

/-- A number in two digits. -/
def twoDigits (n : Int) : String :=
  if n < 10 then "0" ++ toString n else toString n

/-- The time of the day in brackets. -/
def readClock : IO String := do
  let now ← Std.Time.PlainTime.now
  return "[" ++ twoDigits now.hour.val ++ ":" ++ twoDigits now.minute.val ++ ":" ++
    twoDigits now.second.val ++ "]"

/-- What the surroundings tell about the terminal. -/
def readTerminal : IO Terminal := do
  let noColor ← IO.getEnv "NO_COLOR"
  let colors ← IO.getEnv "COLORFGBG"
  return { refusesColor := noColor.any (!·.isEmpty), colors := colors }

/-- What stands in a file, if it can be opened. -/
def readContent (path : String) : IO (Option String) := do
  try
    let text ← IO.FS.readFile path
    return some text
  catch _ => return none

/-- The folder of a path, if it names one. -/
def folderOf (path : String) : Option String :=
  match (Text.splitOnChar '/' path.toList).dropLast with
  | [] => none
  | parts => some (String.ofList (['/'].intercalate parts))

/-- Writes a file; whether it could be written. -/
def writeFile (file : OutputFile) : IO Bool := do
  try
    match folderOf file.path with
    | some folder => if !folder.isEmpty then IO.FS.createDirAll folder
    | none => pure ()
    IO.FS.writeFile file.path file.content
    return true
  catch _ => return false

/-- Prints and writes an outcome; the exit code. -/
def deliver (outcome : Outcome) : IO UInt32 := do
  IO.print outcome.output
  IO.eprint outcome.messages
  match outcome.file with
  | none => return outcome.exitCode.toUInt32
  | some file =>
    if ← writeFile file then
      IO.print file.success
      return outcome.exitCode.toUInt32
    else
      IO.eprint (Failure.unwritten file.path).report
      return 1

end ApiTypes.CommandLine

open ApiTypes.CommandLine

/-- The program. -/
def main (arguments : List String) : IO UInt32 := do
  match Invocation.ofArguments arguments with
  | .error stop => deliver stop.outcome
  | .ok invocation =>
    let content ← readContent invocation.command.input
    deliver (invocation.run { clock := ← readClock, terminal := ← readTerminal } content)
