import HazeServer.Session.Validation

/-! # Notices about documents

When the client opens, changes or closes a document, the store is brought up to date first and then
every hook of the event is called, in registration order. A hook that fails is logged and does not
keep the others from being called. A change that the store ignores calls no hook, and a notice that
the store refuses changes nothing.
-/

namespace HazeServer

/-- What a task is about after a document was withdrawn from the store. -/
def Subject.withdraw (document : Document) : Subject → Subject
  | .stored => .withdrawn document
  | .withdrawn earlier => .withdrawn earlier

/-- The stage of a task after a document was withdrawn from the store. -/
def Stage.withdraw (document : Document) : Stage → Stage
  | .created => .created
  | .waiting request subject version => .waiting request (subject.withdraw document) version

namespace Session

/-- Let the tasks that wait with the stored document of a URI keep its last state. -/
def withdraw (session : Session) (uri : String) : Session :=
  match session.store.get? uri with
  | none => session
  | some document =>
      { session with
        tasks := session.tasks.map fun task =>
          if task.uri = uri then { task with stage := task.stage.withdraw document } else task }

/-- Open a document in the store. -/
def openDocument (session : Session) (uri text : String) (version language : Json) :
    Except Fault Session := do
  let store ← session.store.opened uri text version language
  return { session.withdraw uri with store }

/-- Change a document in the store, and tell what became of it. -/
def changeDocument (session : Session) (uri : String) (version : Json)
    (edits : List Text.Edit) : Except Fault (Option Document × Session) := do
  let (store, document) ← session.store.changed uri version edits
  return (document, { session with store })

/-- Close a document in the store. -/
def closeDocument (session : Session) (uri : String) : Session :=
  let session := session.withdraw uri
  { session with store := session.store.closed uri }

/-- The validator's part in an event: a push, or for a closed document an empty notice. -/
def callValidator (session : Session) (uri : String) : DocumentEvent → Option Fault × Session
  | .closed => (session.cancelValidation uri).publish { uri, version := .null, diagnostics := [] }
  | _ => (none, session.schedule uri)

/-- Call a hook; tells the fault if it fails. -/
def callHook (session : Session) (event : DocumentEvent) (uri : String) :
    Hook → Option Fault × Session
  | .validation => session.callValidator uri event
  | .eviction => (none, session.evict uri)
  | .external name fault =>
      (fault, session.emit (.hookCall name uri ((session.store.get? uri).map (·.text))))

/-- The log message for a hook that failed. -/
def hookFailure (event : DocumentEvent) (hook : Hook) (fault : Fault) : Effect :=
  .log .error ("Error in " ++ event.name ++ " hook " ++ hook.name event ++ ": " ++ fault.described)

/-- Call a hook and log its failure. -/
def notify (event : DocumentEvent) (uri : String) (session : Session) (hook : Hook) : Session :=
  match session.callHook event uri hook with
  | (none, session) => session
  | (some fault, session) => session.emit (hookFailure event hook fault)

/-- Call every hook of an event. -/
def broadcast (session : Session) (event : DocumentEvent) (uri : String) : Session :=
  (session.hooks.of event).foldl (notify event uri) session

/-- The client opened a document. -/
def didOpen (session : Session) (uri text : String) (version language : Json) :
    Except Fault Session := do
  let session ← session.openDocument uri text version language
  return (session.log .info
    ("Document opened: " ++ uri ++ " (version " ++ version.plain ++ ")")).broadcast
      .opened uri

/-- The client changed a document. -/
def didChange (session : Session) (uri : String) (version : Json)
    (edits : List Text.Edit) : Except Fault Session := do
  match ← session.changeDocument uri version edits with
  | (some _, session) => return session.broadcast .changed uri
  | (none, session) =>
      return session.log .log
        ("Ignoring change for " ++ uri ++ " (version " ++ version.plain ++ ")")

/-- The client closed a document. -/
def didClose (session : Session) (uri : String) : Session :=
  ((session.closeDocument uri).log .info ("Document closed: " ++ uri)).broadcast .closed uri

end Session

end HazeServer
