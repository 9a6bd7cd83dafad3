import Storekeeper.Server.Console
import Storekeeper.Settings.Read

/-!
# The command line

Starts the server at a console with the settings of the environment, and takes notifications from
standard input, one to a line, until it ends.
-/

namespace Storekeeper.CommandLine

/-- The settings of the environment, under their names in upper case. -/
def environment : IO (Table String) := do
  let values ← Settings.names.mapM fun name => do
    let name := Text.upper name
    return (← IO.getEnv name).map (name, ·)
  return values.filterMap id

/-- The bytes that are stored at a path, if they can be read. -/
def stored (path : String) : IO (Option Text.Bytes) := do
  try
    return some (← IO.FS.readBinFile path).toList
  catch _ =>
    return none

/-- What a path that may have been set leads to. -/
def source (path : Option String) : IO FileSource :=
  return .ofPath path (← stored (path.getD ""))

/-- Takes notifications until the input ends; `started` is when the console was started. -/
partial def serve (started : Nat) (server : Server) (console : Console) : IO Unit := do
  let line ← (← IO.getStdin).getLine
  if line.isEmpty then return
  let elapsed := ((← IO.monoNanosNow) - started) / 1000
  let (shown, server, console) := Console.takeLine server line { console with elapsed }
  for value in shown do
    IO.println value.render
  (← IO.getStdout).flush
  serve started server console

/-- Starts the server with settings and serves. -/
def start (settings : Settings) : IO UInt32 := do
  let settings := Console.settings settings
  IO.print settings.report
  let messages ← source settings.messagesPath
  let flow ← source settings.flowDefinitionPath
  match Service.start settings messages flow with
  | .error _ =>
    IO.eprintln "The messages or the flow cannot be used."
    return 1
  | .ok service =>
    serve (← IO.monoNanosNow) { Server.idle settings with service := some service } ⟨0, 0⟩
    return 0

end Storekeeper.CommandLine

/-- Runs the command line. -/
def main : IO UInt32 := do
  match Storekeeper.Settings.read [] (← Storekeeper.CommandLine.environment) with
  | .flawed flaws =>
    for flaw in flaws do
      IO.eprintln (flaw.pathText ++ ": " ++ flaw.cause.text)
    return 1
  | .ok settings => Storekeeper.CommandLine.start settings
