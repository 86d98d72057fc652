import FleetWatch.CommandLine

/-! # The program

Reads the arguments, runs a command, and writes what it comes to. A command that needs the service
over the network fails here: there is no connection to make it over.
-/

open FleetWatch

def writeOutput (output : CommandLine.Output) : IO UInt32 := do
  IO.print output.stdout
  IO.eprint output.stderr
  return output.code.toUInt32

/-- The text of the file that a command reads, if it can be read. -/
def readCommandFile (command : CommandLine.Command) : IO (Option String) :=
  match command with
  | .exclusions path => try some <$> IO.FS.readFile path catch _ => return none
  | _ => return none

def main (args : List String) : IO UInt32 := do
  match CommandLine.parse args with
  | .error stop => writeOutput stop.output
  | .ok invocation =>
      let text ← readCommandFile invocation.command
      match CommandLine.action (fun _ => text) invocation with
      | .done output => writeOutput output
      | .ask _ => writeOutput (.failure ("cannot connect to " ++ invocation.url))
