import HazeServer.Announcement
import HazeServer.Document.Store
import HazeServer.Plugin.Basic

/-! # The state of a session

A session serves one client. Work that has to wait for the client is done by tasks: a task takes its
first turn, may wait for a settings request, and continues when the request is settled. What can
happen next is a list of jobs. Nothing in the state is a clock or a thread, so a run of a session is
a list of events, each of which changes the state at once.

Tasks and requests are named by tickets. A ticket is numbered within its URI, so what happens to one
document does not depend on how many others there are.
-/

namespace HazeServer

/-- The name of a task or request: the URI it is about and a number. -/
structure Ticket where
  uri : String
  number : Nat
  deriving DecidableEq, Repr

/-- What a task is for; all but pushes answer a request of the client. -/
inductive Purpose where
  | push
  | pull (id : RequestId)
  | diagnose (id : RequestId)
  | settings (id : RequestId)
  deriving DecidableEq, Repr

/-- The request of the client that a task answers. -/
def Purpose.requestId? : Purpose → Option RequestId
  | .push => none
  | .pull id => some id
  | .diagnose id => some id
  | .settings id => some id

/-- The document that a waiting task is about: the one the store holds, or the last state of one
that was closed or replaced while the task was waiting. -/
inductive Subject where
  | stored
  | withdrawn (document : Document)
  deriving DecidableEq, Repr

/-- How far a task has come. A waiting task remembers the version it saw at its first turn. -/
inductive Stage where
  | created
  | waiting (request : Ticket) (subject : Subject) (version : Json)
  deriving DecidableEq, Repr

/-- A task that has not ended. -/
structure Task where
  ticket : Ticket
  purpose : Purpose
  stage : Stage := .created
  cancelled : Bool := false
  deriving DecidableEq, Repr

/-- The URI that a task is about. -/
def Task.uri (task : Task) : String := task.ticket.uri

/-- Whether a task waits for a request. -/
def Task.waitsFor (task : Task) (request : Ticket) : Bool :=
  match task.stage with
  | .created => false
  | .waiting awaited _ _ => awaited == request

/-- The client's reply to a settings request. -/
inductive Reply where
  | result (value : Json)
  | fault (fault : Fault)
  | cancelled
  deriving Repr

/-- What a settings request led to. -/
inductive Outcome where
  | settings (settings : Settings)
  | failed
  | fault (fault : Fault)
  | cancelled
  deriving Repr

/-- How far a settings request has come. -/
inductive RequestState where
  | unsent
  | sent
  | answered (reply : Reply)
  | settled (outcome : Outcome)
  deriving Repr

/-- A settings request. -/
structure Request where
  ticket : Ticket
  state : RequestState := .unsent
  deriving Repr

/-- Whether a request was sent and has no reply yet. -/
def Request.isOutstanding (request : Request) : Bool :=
  match request.state with
  | .sent => true
  | _ => false

/-- What a request led to, once it is settled. -/
def Request.outcome? (request : Request) : Option Outcome :=
  match request.state with
  | .settled outcome => some outcome
  | _ => none

/-- Something that can happen next. -/
inductive Job where
  /-- A task takes its first turn. -/
  | start (task : Ticket)
  /-- A settings request goes out. -/
  | send (request : Ticket)
  /-- The reply to a settings request reaches the cache. -/
  | deliver (request : Ticket)
  /-- A waiting task continues. -/
  | resume (task : Ticket)
  /-- A push that has ended leaves the table of pushes under way. -/
  | retire (task : Ticket)
  deriving DecidableEq, Repr

/-- Whether a job is the arrival of a reply. -/
def Job.isDelivery : Job → Bool
  | .deliver _ => true
  | _ => false

/-- Something to be called when a document is opened, changed or closed: the validator, the settings
cache, or a collaborator that may fail. -/
inductive Hook where
  | validation
  | eviction
  | external (name : String) (fault : Option Fault)
  deriving Repr

/-- The three events in the life of a document. -/
inductive DocumentEvent where
  | opened
  | changed
  | closed
  deriving DecidableEq, Repr

/-- The name of an event in log messages. -/
def DocumentEvent.name : DocumentEvent → String
  | .opened => "on_open"
  | .changed => "on_change"
  | .closed => "on_close"

/-- The name of a hook in log messages. -/
def Hook.name (event : DocumentEvent) : Hook → String
  | .validation => "_" ++ event.name
  | .eviction => "on_document_closed"
  | .external name _ => name

/-- The hooks of each event, in registration order. -/
structure Hooks where
  opened : List Hook := []
  changed : List Hook := []
  closed : List Hook := []
  deriving Repr

namespace Hooks

/-- The hooks of an event. -/
def of (hooks : Hooks) : DocumentEvent → List Hook
  | .opened => hooks.opened
  | .changed => hooks.changed
  | .closed => hooks.closed

/-- Register a hook for an event. -/
def add (hooks : Hooks) (hook : Hook) : DocumentEvent → Hooks
  | .opened => { hooks with opened := hooks.opened ++ [hook] }
  | .changed => { hooks with changed := hooks.changed ++ [hook] }
  | .closed => { hooks with closed := hooks.closed ++ [hook] }

/-- Register the validator for all three events. -/
def withValidator (hooks : Hooks) : Hooks :=
  ((hooks.add .validation .opened).add .validation .changed).add .validation .closed

end Hooks

/-- The settings cache: the settings of a client that cannot be asked, and for a client that can the
request for each document. With a timeout of no seconds a request fails before it is sent. -/
structure Cache where
  global : Settings := {}
  entries : Table Ticket := .empty
  timeout : Nat := 5
  deriving Repr

/-- Faults that sending to the client will meet, once each. -/
structure Transport where
  publishFault : Option Fault := none
  refreshFault : Option Fault := none
  deriving Repr

/-- The state of a session. -/
structure Session where
  /-- What the client supports; unknown before the handshake. -/
  client : Option ClientSupport := none
  store : Store := {}
  /-- The settings cache; there is none before the handshake. -/
  cache : Option Cache := none
  requests : List Request := []
  tasks : List Task := []
  ready : List Job := []
  /-- The pushes under way, by URI. -/
  validating : Table Ticket := .empty
  rule : Rule := .null
  /-- The number of findings taken from the rule. -/
  taken : Nat := 0
  hooks : Hooks := Hooks.withValidator {}
  /-- Whether requests for completion and diagnostics are passed on to the plugins. -/
  hasPlugins : Bool := true
  /-- The number of refresh requests without a reply. -/
  refreshes : Nat := 0
  transport : Transport := {}
  /-- The number of tickets issued for each URI. -/
  tickets : Table Nat := .empty
  outbox : List Effect := []

namespace Session

/-- Do something towards the outside. -/
def emit (session : Session) (effect : Effect) : Session :=
  { session with outbox := session.outbox ++ [effect] }

/-- Do several things towards the outside. -/
def emitAll (session : Session) (effects : List Effect) : Session :=
  { session with outbox := session.outbox ++ effects }

/-- Send a log message. -/
def log (session : Session) (type : LogType) (message : String) : Session :=
  session.emit (.log type message)

/-- Add a job to those that can happen next. -/
def enqueue (session : Session) (job : Job) : Session :=
  { session with ready := session.ready ++ [job] }

/-- A ticket for a URI, and the session that has issued it. -/
def issue (session : Session) (uri : String) : Ticket × Session :=
  let number := (session.tickets.get? uri).getD 0
  (⟨uri, number⟩, { session with tickets := session.tickets.set uri (number + 1) })

/-- The task of a ticket, if it has not ended. -/
def task? (session : Session) (ticket : Ticket) : Option Task :=
  session.tasks.find? (·.ticket == ticket)

/-- Put a task in the place of the one with its ticket. -/
def updateTask (session : Session) (task : Task) : Session :=
  { session with
    tasks := session.tasks.map fun held => if held.ticket = task.ticket then task else held }

/-- Whether the client can be asked for settings. -/
def asksClient (session : Session) : Bool :=
  session.client.any (·.configuration)

/-- Whether the client is told to refresh its diagnostics. -/
def refreshesClient (session : Session) : Bool :=
  session.client.any (·.refresh)

/-- What has been done towards the outside, and the session that has forgotten it. -/
def takeOutbox (session : Session) : List Effect × Session :=
  (session.outbox, { session with outbox := [] })

end Session

end HazeServer
