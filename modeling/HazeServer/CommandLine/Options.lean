import HazeServer.CommandLine.Word
import HazeServer.Number.Numeral
import HazeServer.Text.Quoted
import HazeServer.Text.Upper

/-! # Options

What the command line asks for. Switches count from left to right; the first one that cannot be
understood, or that asks for help or the version, ends the reading. Words that belong to no switch
are reported at the end, all together. The log level of the environment is taken as it is, in upper
case; that of the command line has to be one of the five levels. The rules are in use in two forms.
-/

namespace HazeServer

namespace CommandLine

/-- What an option is set to. It is vacant if the separator was given to it in place of a value. -/
inductive Slot (α : Type) where
  | filled (value : α)
  | vacant
  deriving DecidableEq, Repr

/-- The two forms of the rules for reading words. -/
inductive Convention where
  /-- The separator is no value, and leaves an option vacant that it is given to. All that is joined to a
  short switch has to be short switches too. -/
  | earlier
  /-- The separator is a value like others. What is joined to a short switch is followed as far as it is
  short switches; the next character must not be a dash or an equals sign. -/
  | later
  deriving DecidableEq, Repr

/-- Whether a value leaves an option vacant. -/
def Convention.vacates : Convention → String → Bool
  | .earlier, value => value == separator
  | .later, _ => false

/-- What the command line asks for. -/
structure Options where
  tcp : Bool := false
  host : Slot String := .filled "127.0.0.1"
  port : Slot Int := .filled 2087
  logFile : Option (Slot String) := none
  logLevel : Slot String := .filled "WARNING"
  deriving DecidableEq, Repr

/-- What is wrong with a command line. -/
inductive UsageError where
  | ambiguous (ambiguity : Ambiguity)
  | valueMissing (switch : Switch)
  | valueIgnored (switch : Switch) (value : String)
  | notNumber (value : String)
  | unknownLevel (level : String)
  | unrecognized (words : List String)
  deriving DecidableEq, Repr

/-- Why the program ends without starting. -/
inductive Exit where
  | help
  | version
  | usage (error : UsageError)
  deriving DecidableEq, Repr

/-- The levels that the command line accepts. -/
def levels : List String := ["DEBUG", "INFO", "WARNING", "ERROR", "CRITICAL"]

/-- The message of a usage error. -/
def UsageError.message : UsageError → String
  | .ambiguous ambiguity =>
      "ambiguous option: " ++ ambiguity.word ++ " could match "
        ++ ", ".intercalate ambiguity.names
  | .valueMissing switch => "argument " ++ switch.title ++ ": expected one argument"
  | .valueIgnored switch value =>
      "argument " ++ switch.title ++ ": ignored explicit argument " ++ Text.quoted value
  | .notNumber value =>
      "argument " ++ Switch.port.title ++ ": invalid int value: " ++ Text.quoted value
  | .unknownLevel level =>
      "argument " ++ Switch.logLevel.title ++ ": invalid choice: " ++ Text.quoted level
        ++ " (choose from " ++ ", ".intercalate (levels.map Text.quoted) ++ ")"
  | .unrecognized words => "unrecognized arguments: " ++ " ".intercalate words

/-- Read the value of a switch that takes one. -/
def Options.readValue (options : Options) (switch : Switch) (value : String) :
    Except Exit Options :=
  match switch with
  | .host => .ok { options with host := .filled value }
  | .logFile => .ok { options with logFile := some (.filled value) }
  | .port =>
      match Numeral.read? value with
      | some port => .ok { options with port := .filled port }
      | none => .error (.usage (.notNumber value))
  | .logLevel =>
      let level := Text.upper value
      if level ∈ levels then .ok { options with logLevel := .filled level }
      else .error (.usage (.unknownLevel level))
  | _ => .ok options

/-- Leave a switch that takes a value without one. -/
def Options.vacate (options : Options) : Switch → Options
  | .host => { options with host := .vacant }
  | .logFile => { options with logFile := some .vacant }
  | .port => { options with port := .vacant }
  | .logLevel => { options with logLevel := .vacant }
  | _ => options

/-- Refuse a value for a switch that takes none. -/
def ignored {α : Type} (switch : Switch) (value : String) : Except Exit α :=
  .error (.usage (.valueIgnored switch value))

/-- Follow a switch that takes no value. -/
def Options.follow (options : Options) : Switch → Except Exit Options
  | .help => .error .help
  | .version => .error .version
  | .tcp => .ok { options with tcp := true }
  | _ => .ok options

section Reading

variable (convention : Convention)

/-- Set the value of a switch that takes one. -/
def Options.setValue (options : Options) (switch : Switch) (value : String) :
    Except Exit Options :=
  if convention.vacates value then .ok (options.vacate switch) else options.readValue switch value

/-- Give a value to a switch; one that takes none refuses it. -/
def Options.give (options : Options) (switch : Switch) (value : String) : Except Exit Options :=
  if switch.takesValue then options.setValue convention switch value else ignored switch value

/-- What becomes of characters joined to a switch where they are no short switches. In the later form they
may be left for the words that belong to no switch; they are dropped here, since what they are joined to
ends the reading. -/
def endJoined (switch : Switch) (first : Char) (rest : List Char) : Except Exit (List Switch) :=
  match convention, first with
  | .later, '=' => ignored switch (String.ofList rest)
  | .later, '-' => ignored switch (String.ofList (first :: rest))
  | .later, _ => .ok [switch]
  | .earlier, _ => ignored switch (String.ofList (first :: rest))

/-- The switches that a short switch without a value and the characters joined to it stand for. -/
def joinedSwitches (switch : Switch) : List Char → Except Exit (List Switch)
  | [] => .ok [switch]
  | c :: rest =>
      match Switch.ofName? (String.ofList ['-', c]) with
      | none => endJoined convention switch c rest
      | some next => do return switch :: (← joinedSwitches next rest)

/-- Follow a switch to which something is joined, with an equals sign or without. -/
def Options.followJoined (options : Options) (switch : Switch) (equals : Bool) (joined : List Char) :
    Except Exit Options := do
  if switch.takesValue then options.setValue convention switch (String.ofList joined)
  else if equals && convention = .later then ignored switch (String.ofList joined)
  else (← joinedSwitches convention switch joined).foldlM Options.follow options

/-- Read the classified words; `left` holds the words that belong to no switch, in reverse. -/
def readWords (options : Options) (left : List String) :
    List (String × Word) → Except Exit (Options × List String)
  | [] => .ok (options, left.reverse)
  | (word, .plain) :: rest => readWords options (word :: left) rest
  | (word, .stray) :: rest => readWords options (word :: left) rest
  | (_, .switch switch (.value value)) :: rest => do
      readWords (← options.give convention switch value) left rest
  | (_, .switch switch (.joined equals joined)) :: rest => do
      readWords (← options.followJoined convention switch equals joined) left rest
  | (_, .switch switch .nothing) :: rest =>
      if switch.takesValue then
        match rest with
        | (value, .plain) :: rest => do
            readWords (← options.setValue convention switch value) left rest
        | _ => .error (.usage (.valueMissing switch))
      else do readWords (← options.follow switch) left rest

/-- Read a command line, with the log level of the environment. -/
def Options.read (environmentLevel : Option String) (words : List String) :
    Except Exit Options := do
  let level := Text.upper (environmentLevel.getD "WARNING")
  match classifyAll words with
  | .error ambiguity => .error (.usage (.ambiguous ambiguity))
  | .ok classified =>
      let (options, left) ← readWords convention { logLevel := .filled level } [] classified
      if left.isEmpty then .ok options else .error (.usage (.unrecognized left))

end Reading

end CommandLine

end HazeServer
