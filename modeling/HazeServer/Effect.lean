import HazeServer.Diagnostic
import HazeServer.Document.Version
import HazeServer.Settings

/-! # Effects

What the server does towards the outside: messages to the client, answers to its requests, and calls
of collaborators.
-/

namespace HazeServer

/-- The type of a log message. -/
inductive LogType where
  | error
  | warning
  | info
  | log
  deriving DecidableEq, Repr

/-- The number of a log message type in the protocol. -/
def LogType.number : LogType → Nat
  | .error => 1
  | .warning => 2
  | .info => 3
  | .log => 4

/-- Diagnostics pushed to the client; the notice that a document was closed has no version. -/
structure Publication where
  uri : String
  version : Json
  diagnostics : List Diagnostic
  deriving DecidableEq, Repr

/-- Why a publication cannot be sent: its version, if it has one, has to be within the protocol's
range. -/
def Publication.fault? (publication : Publication) : Option Fault :=
  let version := publication.version
  if version.isNull || isSendableVersion version then none
  else some (.versionOutOfRange .publication version)

/-- The name that the client gave a request. -/
inductive RequestId where
  | number (value : Int)
  | name (value : String)
  deriving DecidableEq, Repr

/-- Whether a request comes before another one when they are listed by their names; numbers come
before texts. -/
def RequestId.atMost : RequestId → RequestId → Bool
  | .number first, .number second => first ≤ second
  | .number _, .name _ => true
  | .name _, .number _ => false
  | .name first, .name second => !(second < first)

/-- The answer to a request of the client. -/
inductive Response where
  | settings (settings : Settings)
  | report (items : List Diagnostic)
  | diagnostics (items : List Diagnostic)
  | fault (fault : Fault)
  | cancelled
  deriving Repr

/-- The calls of a plugin that are not answers to a request. -/
inductive PluginCall where
  | register
  | refresh
  deriving DecidableEq, Repr

/-- Something the server does towards the outside. -/
inductive Effect where
  | log (type : LogType) (message : String)
  | publish (publication : Publication)
  | askSettings (uri : String)
  | askRefresh
  | register (methods : List String)
  | respond (uri : String) (id : RequestId) (response : Response)
  | hookCall (name uri : String) (text : Option String)
  | pluginCall (call : PluginCall) (name : String)
  deriving Repr

end HazeServer
