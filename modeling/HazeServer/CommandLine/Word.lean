import HazeServer.Text.Decimal

/-! # Words of the command line

Before anything is done, every word is classified: a switch, by its name, by an unambiguous
beginning of it or with a value attached; something that looks like a switch but is none; or a plain
argument. After the separator all words are plain.
-/

namespace HazeServer

namespace CommandLine

/-- The switches of the program. -/
inductive Switch where
  | help
  | version
  | tcp
  | host
  | port
  | logFile
  | logLevel
  deriving DecidableEq, Repr

/-- All names of switches. -/
def switchNames : List (String × Switch) := [
  ("-h", .help),
  ("--help", .help),
  ("--version", .version),
  ("--tcp", .tcp),
  ("--host", .host),
  ("--port", .port),
  ("--log-file", .logFile),
  ("--log-level", .logLevel)]

namespace Switch

/-- Whether a switch takes a value. -/
def takesValue : Switch → Bool
  | .help => false
  | .version => false
  | .tcp => false
  | .host => true
  | .port => true
  | .logFile => true
  | .logLevel => true

/-- The names of a switch as error messages show them. -/
def title (switch : Switch) : String :=
  "/".intercalate ((switchNames.filter (·.2 == switch)).map (·.1))

/-- The switch of a name. -/
def ofName? (name : String) : Option Switch :=
  (switchNames.find? (·.1 == name)).map (·.2)

end Switch

/-- What stands in one word with a switch: nothing, a value after an equals sign, or something joined
to a short name, with an equals sign between them or without. -/
inductive Attached where
  | nothing
  | value (text : String)
  | joined (equals : Bool) (text : List Char)
  deriving DecidableEq, Repr

/-- What a word of the command line is. -/
inductive Word where
  | plain
  | stray
  | switch (switch : Switch) (attached : Attached)
  deriving DecidableEq, Repr

/-- A beginning that several switches share, with their names. -/
structure Ambiguity where
  word : String
  names : List String
  deriving DecidableEq, Repr

/-- A text cut at its first equals sign. -/
def cutAtEquals (text : List Char) : List Char × Option (List Char) :=
  match text.dropWhile (· != '=') with
  | _ :: value => (text.takeWhile (· != '='), some value)
  | [] => (text, none)

/-- Whether a text is made of at least one digit. -/
def isDigits (text : List Char) : Bool :=
  !text.isEmpty && text.all fun c => (Text.digitValue? c).isSome

/-- Whether the text after a minus sign makes it a negative number: digits, with a point before the
last of them or without. One line feed may follow. -/
def isUnsignedNumber (text : List Char) : Bool :=
  let body := if text.getLast? = some '\n' then text.dropLast else text
  isDigits body ||
    match body.dropWhile (· != '.') with
    | _ :: fraction =>
        let whole := body.takeWhile (· != '.')
        (whole.isEmpty || isDigits whole) && isDigits fraction
    | [] => false

/-- What stands after the equals sign of a word, if there is one. -/
def attachedValue : Option (List Char) → Attached
  | some value => .value (String.ofList value)
  | none => .nothing

/-- What stands after the equals sign of a word with a name: after a short name it counts as joined,
unless it is empty. -/
def attachedTo (isShort : Bool) (value : List Char) : Attached :=
  if isShort && !value.isEmpty then .joined true value else .value (String.ofList value)

/-- A word that is no switch by name: a negative number and a word with a space are plain. -/
def strayWord (text : List Char) : Word :=
  if isUnsignedNumber (text.drop 1) || text.contains ' ' then .plain else .stray

/-- The names that begin with a text. -/
def namesBeginning (start : List Char) : List (String × Switch) :=
  switchNames.filter fun entry => start.isPrefixOf entry.1.toList

/-- A word with two dashes that is no name: the beginning of a name, before an equals sign. -/
def classifyLong (text : List Char) : Except Ambiguity Word :=
  let (start, value) := cutAtEquals text
  match namesBeginning start with
  | [] => .ok (strayWord text)
  | [(_, switch)] => .ok (.switch switch (attachedValue value))
  | several => .error ⟨String.ofList text, several.map (·.1)⟩

/-- A word with one dash that is no name: a short name with something joined to it. -/
def classifyShort (text : List Char) : Word :=
  match Switch.ofName? (String.ofList (text.take 2)) with
  | some switch => .switch switch (.joined false (text.drop 2))
  | none => strayWord text

/-- Classify a word. -/
def classify (word : String) : Except Ambiguity Word :=
  let text := word.toList
  match text with
  | '-' :: next :: _ =>
      match Switch.ofName? word with
      | some switch => .ok (.switch switch .nothing)
      | none =>
          let (name, value) := cutAtEquals text
          match value, Switch.ofName? (String.ofList name) with
          | some value, some switch => .ok (.switch switch (attachedTo (next != '-') value))
          | _, _ => if next = '-' then classifyLong text else .ok (classifyShort text)
  | _ => .ok .plain

/-- The word after which all others are plain. -/
def separator : String := "--"

/-- Classify all words. -/
def classifyAll : List String → Except Ambiguity (List (String × Word))
  | [] => .ok []
  | word :: rest =>
      if word = separator then
        .ok ((word, .stray) :: rest.map fun word => (word, .plain))
      else do
        let kind ← classify word
        let more ← classifyAll rest
        return (word, kind) :: more

end CommandLine

end HazeServer
