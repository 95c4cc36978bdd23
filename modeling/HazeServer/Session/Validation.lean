import HazeServer.Session.Lookup

/-! # Validating documents

At most one push is under way for a document: a newer one cancels it. A push that waited for
settings is dropped if its document was closed, replaced or changed in the meantime. A cancelled
task ends without doing anything but saying so to the client that asked for its answer.
-/

namespace HazeServer

namespace Session

/-- Create a task; it takes its first turn later. -/
def startTask (session : Session) (uri : String) (purpose : Purpose) : Ticket × Session :=
  let (ticket, session) := session.issue uri
  let session := { session with tasks := session.tasks ++ [Task.mk ticket purpose .created false] }
  (ticket, session.enqueue (.start ticket))

/-- Cancel a task; one that waits continues only to end. -/
def cancelTask (session : Session) (ticket : Ticket) : Session :=
  match session.task? ticket with
  | none => session
  | some task =>
      if task.cancelled then session
      else
        let session := session.updateTask { task with cancelled := true }
        match task.stage with
        | .created => session
        | .waiting .. => session.enqueue (.resume ticket)

/-- Cancel the push under way for a document. -/
def cancelValidation (session : Session) (uri : String) : Session :=
  match session.validating.get? uri with
  | none => session
  | some ticket =>
      { session with validating := session.validating.erase uri }.cancelTask ticket

/-- Start a push for a document in place of the one under way. -/
def schedule (session : Session) (uri : String) : Session :=
  let (ticket, session) := (session.cancelValidation uri).startTask uri .push
  { session with validating := session.validating.set uri ticket }

/-- Remove a task that has ended; a push leaves the table of pushes under way later. -/
def endTask (session : Session) (task : Task) : Session :=
  let session := { session with tasks := session.tasks.filter (·.ticket ≠ task.ticket) }
  match task.purpose with
  | .push => session.enqueue (.retire task.ticket)
  | _ => session

/-- Answer the request of the client that a task is for. -/
def answer (session : Session) (task : Task) (response : Response) : Session :=
  match task.purpose.requestId? with
  | some id => session.emit (.respond task.uri id response)
  | none => session

/-- Hand a publication to the transport; tells the fault if that fails. -/
def transmit (session : Session) (publication : Publication) : Option Fault × Session :=
  match session.transport.publishFault with
  | some fault =>
      (some fault,
        { session with transport := { session.transport with publishFault := none } })
  | none => (none, session.emit (.publish publication))

/-- Send diagnostics to the client; tells the fault if that fails. -/
def publish (session : Session) (publication : Publication) : Option Fault × Session :=
  match publication.fault? with
  | some fault => (some fault, session)
  | none => session.transmit publication

/-- The document that a waiting task is about. -/
def subjectDocument (session : Session) (uri : String) : Subject → Option Document
  | .stored => session.store.get? uri
  | .withdrawn document => some document

/-- The log message for a push that failed. -/
def validationFailure (uri : String) (fault : Fault) : Effect :=
  .log .error ("Validation of " ++ uri ++ " failed: " ++ fault.described)

/-- Whether a push still holds: its document is the stored one, at the version it saw. -/
def isCurrent (session : Session) (uri : String) (subject : Subject) (version : Json) :
    Bool :=
  subject = .stored && (session.store.get? uri).any (·.version.equals version)

/-- Finish a push: log its failure, or publish unless it is out of date. -/
def finishPush (session : Session) (uri : String) (subject : Subject) (version : Json) :
    Except Fault (List Diagnostic) → Session
  | .error fault => session.emit (validationFailure uri fault)
  | .ok diagnostics =>
      if session.isCurrent uri subject version then
        (session.publish { uri, version, diagnostics }).2
      else session

/-- The name of the validator among the plugins. -/
def validatorName : String := "diagnostics"

/-- The validator as a plugin, with the outcome of its validation. -/
def validatorPlugin (result : Except Fault (List Diagnostic)) : DiagnosticPlugin where
  name := validatorName
  accepts := fun _ => .ok true
  diagnose := fun _ => result

/-- Do with the outcome of a validation what the task is for. -/
def finishValidation (session : Session) (task : Task) (subject : Subject)
    (version : Json) (result : Except Fault (List Diagnostic)) : Session :=
  match task.purpose with
  | .push => session.finishPush task.uri subject version result
  | .pull _ =>
      let (items, effects) := reportWith [validatorPlugin result] task.uri
      (session.emitAll effects).answer task (.report items)
  | .diagnose _ =>
      match result with
      | .ok items => session.answer task (.diagnostics items)
      | .error fault => session.answer task (.fault fault)
  | .settings _ => session

/-- Validate the document of a task with its settings. -/
def validateWith (session : Session) (task : Task) (subject : Subject) (version : Json)
    (settings : Settings) : Session :=
  match session.subjectDocument task.uri subject with
  | none => session
  | some document =>
      let validation :=
        session.rule.validate (showsRelated session.client) settings.problemLimit document
      { session with taken := session.taken + validation.taken }.finishValidation
        task subject version validation.result

/-- Continue a task with what became of its look-up. -/
def proceed (session : Session) (task : Task) (subject : Subject) (version : Json) :
    Lookup → Session
  | .waiting request =>
      session.updateTask { task with stage := .waiting request subject version }
  | .cancelled => (session.answer task .cancelled).endTask task
  | .fault fault =>
      match task.purpose with
      | .settings _ => (session.answer task (.fault fault)).endTask task
      | _ => (session.finishValidation task subject version (.error fault)).endTask task
  | .found settings =>
      match task.purpose with
      | .settings _ => (session.answer task (.settings settings)).endTask task
      | _ => (session.validateWith task subject version settings).endTask task

/-- What a task answers when there is nothing to validate. -/
def emptyResponse : Purpose → Response
  | .diagnose _ => .diagnostics []
  | _ => .report []

/-- End a task for which there is nothing to validate. -/
def endEmpty (session : Session) (task : Task) : Session :=
  (session.answer task (emptyResponse task.purpose)).endTask task

/-- Whether a task asks the plugins of a session that has none. -/
def lacksPlugins (session : Session) : Purpose → Bool
  | .pull _ => !session.hasPlugins
  | _ => false

/-- Look up the settings for a task and continue it. -/
def consult (session : Session) (task : Task) (version : Json) : Session :=
  let (lookup, session) := session.lookUp task.uri
  session.proceed task .stored version lookup

/-- The first turn of a task that was not cancelled. -/
def beginTask (session : Session) (task : Task) : Session :=
  match task.purpose with
  | .settings _ => session.consult task .null
  | purpose =>
      if session.lacksPlugins purpose then session.endEmpty task
      else
        match session.store.get? task.uri with
        | none => session.endEmpty task
        | some document => session.consult task document.version

/-- The first turn of a task. -/
def runStart (session : Session) (ticket : Ticket) : Session :=
  match session.task? ticket with
  | none => session
  | some task =>
      match task.stage with
      | .waiting .. => session
      | .created =>
          if task.cancelled then (session.answer task .cancelled).endTask task
          else session.beginTask task

/-- The second turn of a task, when it was cancelled or its request is settled. -/
def runResume (session : Session) (ticket : Ticket) : Session :=
  match session.task? ticket with
  | none => session
  | some task =>
      match task.stage with
      | .created => session
      | .waiting request subject version =>
          if task.cancelled then (session.answer task .cancelled).endTask task
          else
            match session.outcome? request with
            | none => session
            | some outcome =>
                let (lookup, session) := session.learn request outcome
                session.proceed task subject version lookup

/-- A push that has ended leaves the table, unless a newer one has taken its place. -/
def runRetire (session : Session) (ticket : Ticket) : Session :=
  if session.validating.get? ticket.uri = some ticket then
    { session with validating := session.validating.erase ticket.uri }
  else session

/-- Tell the client to ask again for diagnostics, if it can be told; tells the fault if that
fails. -/
def askRefresh (session : Session) : Option Fault × Session :=
  if !session.refreshesClient then (none, session)
  else
    let session := session.emit .askRefresh
    match session.transport.refreshFault with
    | some fault =>
        (some fault,
          { session with transport := { session.transport with refreshFault := none } })
    | none => (none, { session with refreshes := session.refreshes + 1 })

/-- The log message for a plugin that failed to refresh. -/
def refreshFailure (name : String) (fault : Fault) : Effect :=
  pluginFailure "Diagnostics refresh" name fault

/-- Validate all open documents anew. -/
def refreshDiagnostics (session : Session) : Session :=
  match session.askRefresh with
  | (some fault, session) => session.emit (refreshFailure validatorName fault)
  | (none, session) => session.store.uris.foldl schedule session

end Session

end HazeServer
