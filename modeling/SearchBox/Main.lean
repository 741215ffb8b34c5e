import SearchBox.CommandLine
import Std.Time.DateTime.Timestamp

namespace SearchBox.Main

/-- A terminal is not waited for. -/
partial def readInput : IO String := do
  let stdin ← IO.getStdin
  if ← stdin.isTty then return ""
  let rec go (text : String) : IO String := do
    let line ← stdin.getLine
    if line.isEmpty then return text else go (text ++ line)
  go ""

def outcome (args : List String) : IO Outcome := do
  match Command.ofArguments args with
  | .error error => return CommandLine.usage error
  | .ok command =>
    let now := (← Std.Time.Timestamp.now).toMillisecondsSinceUnixEpoch.toInt
    let input ← if command.readsInput then readInput else pure ""
    return CommandLine.runCommand now input command

end SearchBox.Main

def main (args : List String) : IO UInt32 := do
  let outcome ← SearchBox.Main.outcome args
  (← IO.getStdout).putStr outcome.stdout
  (← IO.getStderr).putStr outcome.stderr
  return outcome.code
