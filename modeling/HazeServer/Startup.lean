import HazeServer.CommandLine.Options
import HazeServer.Fault

/-! # Start-up

From the command line and the environment to what is started: a log, with the place where it goes and the
level from which on it takes messages, and one transport. The words are read first; then the log has to
know the name of the level; then a file for the log is opened; and only then what the name stands for has
to be a level.
-/

namespace HazeServer

/-- How the server is reached. -/
inductive Launch where
  | stdio
  | tcp (host : CommandLine.Slot String) (port : CommandLine.Slot Int)
  deriving DecidableEq, Repr

/-- What the log has under a name and is given as its threshold. That need not be a level: its message
template and its table of template styles have names too. -/
inductive LogThreshold where
  | level (number : Nat)
  | template (text : String)
  | styles
  deriving DecidableEq, Repr

/-- What is passed on to set up the log, and how the server is going to be reached. -/
structure Startup where
  logFile : Option (CommandLine.Slot String)
  logLevel : LogThreshold
  launch : Launch
  deriving DecidableEq, Repr

/-- Where log messages go. -/
inductive LogTarget where
  | stderr
  | file (name : String)
  deriving DecidableEq, Repr

/-- A log that is set up. -/
structure Log where
  target : LogTarget
  level : Nat
  deriving DecidableEq, Repr

/-- What was started. -/
structure Running where
  log : Log
  launch : Launch
  deriving DecidableEq, Repr

/-- Why the program does not start. -/
inductive StartupFailure where
  | exit (exit : CommandLine.Exit)
  | fault (fault : Fault)
  deriving Repr

namespace Startup

/-- The environment variable that gives the default log level. -/
def levelVariable : String := "HAZELS_LOG_LEVEL"

/-- The shape of a line of the log. -/
def logFormat : String := "%(asctime)s %(levelname)s %(name)s: %(message)s"

/-- The template for messages that the log has of its own. -/
def basicTemplate : String := "%(levelname)s:%(name)s:%(message)s"

/-- The table of template styles as messages show it. -/
def stylesText : String :=
  "\x7b'%': (<class 'logging.PercentStyle'>, '" ++ basicTemplate ++ "'), " ++
  "'\x7b': (<class 'logging.StrFormatStyle'>, '\x7blevelname\x7d:\x7bname\x7d:\x7bmessage\x7d'), " ++
  "'$': (<class 'logging.StringTemplateStyle'>, '$\x7blevelname\x7d:$\x7bname\x7d:$\x7bmessage\x7d')\x7d"

/-- What the log has under names that are in upper case. -/
def thresholds : List (String × LogThreshold) := [
  ("CRITICAL", .level 50), ("FATAL", .level 50), ("ERROR", .level 40), ("WARNING", .level 30),
  ("WARN", .level 30), ("INFO", .level 20), ("DEBUG", .level 10), ("NOTSET", .level 0),
  ("BASIC_FORMAT", .template basicTemplate), ("_STYLES", .styles)]

/-- What the log has under the name of a level. -/
def threshold : CommandLine.Slot String → Except Fault LogThreshold
  | .vacant => .error .levelMissing
  | .filled name =>
      match thresholds.lookup name with
      | some threshold => .ok threshold
      | none => .error (.unknownLevel name)

/-- What options pass on. The log has to know the name of the level; what it stands for is checked when
the log is set up. -/
def ofOptions (options : CommandLine.Options) : Except Fault Startup := do
  return {
    logFile := options.logFile
    logLevel := ← threshold options.logLevel
    launch := if options.tcp then .tcp options.host options.port else .stdio }

/-- What a command line passes on, with the log level of the environment. -/
def plan (convention : CommandLine.Convention) (environmentLevel : Option String)
    (words : List String) : Except StartupFailure Startup :=
  match CommandLine.Options.read convention environmentLevel words with
  | .error exit => .error (.exit exit)
  | .ok options =>
      match ofOptions options with
      | .error fault => .error (.fault fault)
      | .ok startup => .ok startup

/-- The number of a level by its name. -/
def levelNumber? (name : String) : Option Nat :=
  match thresholds.lookup name with
  | some (.level number) => some number
  | _ => none

/-- The level that a threshold gives: a text has to be the name of one. -/
def checkLevel : LogThreshold → Except Fault Nat
  | .level number => .ok number
  | .template text =>
      match levelNumber? text with
      | some number => .ok number
      | none => .error (.noLevelName text)
  | .styles => .error (.noLevel stylesText)

/-- Where the log goes: to a file only if it has a name. -/
def logTarget : Option (CommandLine.Slot String) → LogTarget
  | some (.filled name) => if name = "" then .stderr else .file name
  | _ => .stderr

/-- Why the log cannot go to its target, if it cannot. What stands in the way of a file is for `opening`
to say. -/
def targetFault? (opening : String → Option Fault) : LogTarget → Option Fault
  | .stderr => none
  | .file name => opening name

/-- Set up the log. -/
def setUpLog (opening : String → Option Fault) (startup : Startup) : Except Fault Log :=
  match targetFault? opening (logTarget startup.logFile) with
  | some fault => .error fault
  | none => do return ⟨logTarget startup.logFile, ← checkLevel startup.logLevel⟩

/-- Start the program. -/
def start (convention : CommandLine.Convention) (opening : String → Option Fault)
    (environmentLevel : Option String) (words : List String) : Except StartupFailure Running :=
  match plan convention environmentLevel words with
  | .error failure => .error failure
  | .ok startup =>
      match setUpLog opening startup with
      | .error fault => .error (.fault fault)
      | .ok log => .ok ⟨log, startup.launch⟩

end Startup

end HazeServer
