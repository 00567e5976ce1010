import KeyDepot.Command.Ask
import KeyDepot.Command.Serve

namespace KeyDepot

/-- The words of an input line. -/
def commandWords (line : String) : List String :=
  ((line.trimAscii.toString.splitOn " ").filter fun word => !word.isEmpty)

/-- Runs commands until the server has stopped. -/
partial def runConsole (input : IO.FS.Stream) (service : Service) : IO Unit := do
  let line ← input.getLine
  if line.isEmpty || service.desk.server.stopped then return
  match Command.ask (commandWords line) (fun _ => none) service with
  | none => return
  | some (printout, service) =>
    IO.print printout.out
    IO.eprint printout.err
    runConsole input service

end KeyDepot

/-- Ends with the code of the server. -/
def main (arguments : List String) : IO UInt32 := do
  match KeyDepot.Command.serve arguments with
  | .error code => return UInt32.ofNat code
  | .ok desk =>
    KeyDepot.runConsole (← IO.getStdin) { desk }
    return 0
