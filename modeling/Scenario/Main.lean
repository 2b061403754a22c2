import Scenario.CommandLine.Run
import Scenario.Pattern.Search

/-!
# The program

Reads the files that the arguments name, runs, and writes what the run
comes to.
-/

open Scenario CommandLine

/-- The content of a file, if it can be read. -/
def readFile? (name : String) : IO (Option ByteArray) := do
  try
    return some (← IO.FS.readBinFile name)
  catch _ =>
    return none

/-- The file that a command line names for its configuration, with its
content. -/
def configFile (arguments : List String) : IO (String → Option ByteArray) := do
  match Invocation.ofArguments? arguments with
  | some (.request ⟨some name, _, _⟩) =>
    let content ← readFile? name
    return fun file => if file == name then content else none
  | _ => return fun _ => none

def main (arguments : List String) : IO UInt32 := do
  match run (← configFile arguments) arguments with
  | .wrongUsage =>
    IO.eprint (Report.error "wrong arguments" ++ helpText)
    return usageExit.toUInt32
  | .wrongConfig e =>
    IO.eprint (Report.error (e.message?.getD "the configuration cannot be read"))
    return configExit.toUInt32
  | .finished output =>
    IO.print output.out
    IO.eprint output.err
    return output.exit.toUInt32
