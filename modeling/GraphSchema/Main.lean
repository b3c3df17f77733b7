import GraphSchema.CommandLine

/-!
# The program

Reads the files that a run asks for and prints what is left of the run.
-/

namespace GraphSchema.CommandLine

/-- The text of a file, if it can be read. -/
def readText? (file : String) : IO (Option String) := do
  try
    return some (← IO.FS.readFile file)
  catch _ =>
    return none

/-- The texts of those files of a run that can be read. -/
def readFiles (arguments : List String) : IO (List (String × String)) := do
  match parse arguments with
  | .error _ => return []
  | .ok request =>
      request.files.filterMapM fun file => do
        return (← readText? file).map fun text => (file, text)

end GraphSchema.CommandLine

open GraphSchema in
def main (arguments : List String) : IO UInt32 := do
  let files ← CommandLine.readFiles arguments
  let outcome := CommandLine.run arguments fun file => files.lookup file
  IO.print outcome.output
  if let some message := outcome.failure then
    IO.eprintln message
  if outcome = .ofStop .usage then
    IO.eprintln CommandLine.usage
  return outcome.exitCode.toUInt32
