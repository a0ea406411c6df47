import HttpContract.Cli.Command

/-!
# The program

Runs a command line on the files it names. The files under a directory are not looked up: their paths are listed on
standard input, one a line.
-/

namespace HttpContract.Program

/-- The lines of a stream up to its end. -/
partial def readLines (stream : IO.FS.Stream) (lines : List String) : IO (List String) := do
  let line ← stream.getLine
  if line.isEmpty then
    return lines.reverse
  readLines stream (Text.stripEnd line :: lines)

/-- The file at a path with its bytes, if it can be read. -/
def readFile? (path : String) : IO (Option (String × List UInt8)) := do
  match ← (IO.FS.readBinFile path).toBaseIO with
  | .ok data => return some (path, data.toList)
  | .error _ => return none

/-- The variables of the environment that settings come from. -/
def readEnvironment : IO (List (String × String)) := do
  let names := ["CONTENT_TYPE", "LOG_LEVEL", "DEFAULT_RESPONSE_STATUS"].map ("WIRESPEC_" ++ ·)
  let values ← names.mapM fun name => do return (← IO.getEnv name).map fun value => (name, value)
  return values.filterMap id

/-- The files that the arguments and standard input name. -/
def readWorld (arguments : List String) : IO Cli.World := do
  let input ← IO.getStdin
  let listed ← if ← input.isTty then pure [] else readLines input []
  let directory := (← IO.getEnv "PWD").getD ""
  let empty : Cli.World := ⟨.ofEntries "" [] [], directory, ← readEnvironment⟩
  let files ← ((arguments ++ listed).map empty.locate).mapM readFile?
  return { empty with tree := .ofEntries "" (files.filterMap id) [] }

end HttpContract.Program

/-- Runs the command line. -/
def main (arguments : List String) : IO UInt32 := do
  let outcome := HttpContract.Cli.run (← HttpContract.Program.readWorld arguments) arguments
  for line in outcome.printed do
    IO.println line
  let (code, reason) := outcome.ending.report
  if let some reason := reason then
    IO.eprintln reason
  return UInt32.ofNat code
