import HazeServer.Fault

/-! # Settings

The settings of a document, read from the client's JSON. Missing or malformed values fall back to
the default of their own field; unknown members are ignored.
-/

namespace HazeServer

/-- How much the client wants to be told about the exchange of messages. -/
inductive TraceLevel where
  | off
  | messages
  | verbose
  deriving DecidableEq, Repr

namespace TraceLevel

/-- The name of a level. -/
def name : TraceLevel → String
  | .off => "off"
  | .messages => "messages"
  | .verbose => "verbose"

/-- The level of a name. -/
def ofName? (name : String) : Option TraceLevel :=
  [off, messages, verbose].find? (·.name == name)

end TraceLevel

/-- The settings of a document: the greatest number of problems to report, and the trace level. -/
structure Settings where
  problemLimit : Nat := 100
  trace : TraceLevel := .off
  deriving DecidableEq, Repr

namespace Settings

/-- The section of the client's configuration that holds the settings. -/
def sectionName : String := "haze-ls"

/-- The member of the problem limit. -/
def limitMember : String := "maxNumberOfProblems"

/-- The settings of a client that gives none. -/
def default : Settings := {}

/-- The limit of a double: its whole part, unless it is negative. -/
def limitOfDouble (double : Double) : Except Fault Nat :=
  match double.value with
  | .notNumber => .error .notNumber
  | .infinite negative => if negative then .ok default.problemLimit else .error .infiniteNumber
  | .finite negative mantissa exponent =>
      if negative ∧ mantissa ≠ 0 then .ok default.problemLimit
      else .ok (Double.wholePart mantissa exponent)

/-- The limit that a member asks for; only a number that is not negative counts. -/
def limitOf : Option Json → Except Fault Nat
  | some (.int number) =>
      .ok (if number < 0 then default.problemLimit else number.toNat)
  | some (.double double) => limitOfDouble double
  | _ => .ok default.problemLimit

/-- The trace level that a member asks for. -/
def traceOf (trace : Option Json) : TraceLevel :=
  match trace.bind (Json.member? "server") with
  | some (.text name) => (TraceLevel.ofName? name).getD default.trace
  | _ => default.trace

/-- The settings of a JSON value; what is no object asks for nothing. -/
def ofJson (json : Json) : Except Fault Settings := do
  let limit ← limitOf (json.member? limitMember)
  return ⟨limit, traceOf (json.member? "trace")⟩

/-- Settings as a client writes them. -/
def toJson (settings : Settings) : Json :=
  .object [(limitMember, .int settings.problemLimit),
    ("trace", .object [("server", .text settings.trace.name)])]

/-- The settings in the payload of a configuration change. -/
def ofPayload (payload : Json) : Except Fault Settings :=
  ofJson ((payload.member? sectionName).getD .null)

/-- The settings in the reply to a settings request: those of its first item. A reply that counts as
not set has none. -/
def ofReply (reply : Json) : Except Fault Settings :=
  match reply with
  | .list (first :: _) => ofJson first
  | .object (_ :: _) => .error .noFirstItem
  | .object [] => ofJson .null
  | .text _ => ofJson .null
  | _ => if reply.isSet then .error (.noItems reply.kindName) else ofJson .null

end Settings

end HazeServer
