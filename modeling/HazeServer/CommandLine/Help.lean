import HazeServer.CommandLine.Options
import HazeServer.Wire

/-! # What the program prints when it does not start

Help and version go to the standard output and end the program with success. An error goes to the
standard error, after a reminder of the usage, and ends it with code two.
-/

namespace HazeServer

namespace CommandLine

/-- The reminder of the usage. -/
def usageText : String :=
  "usage: haze-ls [-h] [--version] [--tcp] [--host HOST] [--port PORT]\n" ++
  "               [--log-file LOG_FILE]\n" ++
  "               [--log-level \x7bDEBUG,INFO,WARNING,ERROR,CRITICAL\x7d]\n"

/-- The whole help. -/
def helpText : String :=
  usageText ++
  "\n" ++
  "Language server for the Haze programming language\n" ++
  "\n" ++
  "options:\n" ++
  "  -h, --help            show this help message and exit\n" ++
  "  --version             show program's version number and exit\n" ++
  "  --tcp                 Serve over TCP instead of stdio\n" ++
  "  --host HOST           Bind address for --tcp\n" ++
  "  --port PORT           Port for --tcp\n" ++
  "  --log-file LOG_FILE   Write logs to this file instead of stderr\n" ++
  "  --log-level \x7bDEBUG,INFO,WARNING,ERROR,CRITICAL\x7d\n" ++
  "                        Log level (default: $HAZELS_LOG_LEVEL or WARNING)\n"

namespace Exit

/-- The exit code. -/
def code : Exit → Nat
  | .help => 0
  | .version => 0
  | .usage _ => 2

/-- What goes to the standard output. -/
def output : Exit → String
  | .help => helpText
  | .version => serverName ++ " " ++ serverVersion ++ "\n"
  | .usage _ => ""

/-- What goes to the standard error. -/
def errorOutput : Exit → String
  | .usage error => usageText ++ serverName ++ ": error: " ++ error.message ++ "\n"
  | _ => ""

end Exit

end CommandLine

end HazeServer
