import HazeServer.CommandLine.Help
import HazeServer.Startup

/-! # The program

Reads the command line and tells what it asks for, or why the server does not start.
-/

namespace HazeServer

/-- The value of an option in words. -/
def CommandLine.Slot.describe {α : Type} [ToString α] : CommandLine.Slot α → String
  | .filled value => toString value
  | .vacant => "nothing"

/-- A place for log messages in words. -/
def LogTarget.describe : LogTarget → String
  | .stderr => "stderr"
  | .file name => name

/-- A transport in words. -/
def Launch.describe : Launch → String
  | .stdio => "stdio"
  | .tcp host port => "tcp " ++ host.describe ++ " " ++ port.describe

/-- What is started, in words. -/
def Running.describe (running : Running) : String :=
  serverName ++ ": " ++ running.launch.describe ++ ", log level " ++ toString running.log.level
    ++ " to " ++ running.log.target.describe

end HazeServer

open HazeServer in
/-- Read the command line and the environment. Files count as open: nothing is written to them. -/
def main (words : List String) : IO UInt32 := do
  match Startup.start .earlier (fun _ => none) (← IO.getEnv Startup.levelVariable) words with
  | .error (.exit exit) =>
      IO.print exit.output
      IO.eprint exit.errorOutput
      return exit.code.toUInt32
  | .error (.fault fault) =>
      IO.eprintln fault.described
      return 1
  | .ok running =>
      IO.eprintln running.describe
      return 0
