import HazeServer.Session.Notice

/-! # Runs of a session

A run is a list of events: messages of the client, and jobs that happen. `Session.handle` is the
effect of one event, `Session.step` forgets its answer, and a run is the fold of the steps. A session
is idle when there is no job left; `Session.settle` lets jobs happen until it is, the turns of tasks
before the arrival of replies.
-/

namespace HazeServer

/-- The client's reply to a request to refresh its diagnostics. -/
inductive RefreshReply where
  | done
  | fault (fault : Fault)
  | cancelled
  deriving Repr

/-- Something that happens to a session. -/
inductive Event where
  /-- The client asks for the handshake. -/
  | handshake (client : ClientProfile)
  /-- The client is ready; registering for configuration changes may be refused. -/
  | clientReady (refusal : Option Fault)
  | opened (uri text : String) (version : Version) (language : Json)
  | changed (uri : String) (version : Version) (edits : List Text.Edit)
  | closed (uri : String)
  | configured (payload : Json)
  | foldersChanged
  | filesChanged (count : Nat)
  | complete (request : CompletionRequest)
  | resolve (item : CompletionItem)
  /-- The client asks for something a task answers later. -/
  | ask (uri : String) (purpose : Purpose) (answered : purpose.requestId?.isSome := by rfl)
  | cancel (id : RequestId)
  /-- The client replies to a settings request, any one that is outstanding. -/
  | reply (request : Ticket) (reply : Reply)
  | refreshReply (reply : RefreshReply)
  /-- The store is changed without a notice. -/
  | storeChanged (uri : String) (version : Json) (edits : List Text.Edit)
  | evict (uri : String)
  | schedule (uri : String)
  | cancelValidation (uri : String)
  | useRule (rule : Rule)
  | addHook (event : DocumentEvent) (hook : Hook)
  | failNextPublish (fault : Fault)
  | failNextRefresh (fault : Fault)
  /-- A job happens, if it can. -/
  | run (job : Job)

/-- What an event is answered with at once. -/
inductive Answer where
  | nothing
  | flag (value : Bool)
  | fault (fault : Fault)
  | announced (capabilities : ServerCapabilities)
  | items (items : List CompletionItem)
  | item (item : CompletionItem)
  | document (document : Option Document)
  | text (value : String)
  deriving Repr

namespace Session

/-- The handshake: the first one decides what the client supports and the encoding of documents,
and starts the settings cache. Later ones only have an answer. -/
def shakeHands (session : Session) (client : ClientProfile) : Session :=
  match session.client with
  | some _ => session.log .warning "Ignoring repeated initialize request"
  | none =>
      { session with
        client := some client.support
        store := { session.store with encoding := some client.encoding }
        cache := some {}
        hooks := session.hooks.add .eviction .closed }

/-- The capabilities announced in answer to a handshake. -/
def announcement (session : Session) (client : ClientProfile) : ServerCapabilities :=
  (ServerCapabilities.offered client.encoding).negotiate (session.client.getD {})

/-- Register for configuration changes with a client that can be asked for settings. -/
def registerForChanges (session : Session) (refusal : Option Fault) : Session :=
  if !session.asksClient then session
  else
    let session := session.emit (.register ["workspace/didChangeConfiguration"])
    match refusal with
    | none => session
    | some fault =>
        session.log .warning ("Could not register for configuration changes: " ++ fault.message)

/-- Drop what is known of the settings after a change: the entries of a client that can be asked,
else the settings in use before. -/
def dropSettings (session : Session) (payload : Json) : Except Fault Session :=
  if session.asksClient then .ok session.clearEntries else session.updateGlobal payload

/-- The configuration changed: documents are validated anew. -/
def configure (session : Session) (payload : Json) : Answer × Session :=
  if session.cache.isNone then (.nothing, session)
  else
    match session.dropSettings payload with
    | .error fault => (.fault fault, session)
    | .ok session =>
        if session.hasPlugins then (.nothing, session.refreshDiagnostics)
        else (.fault (.componentMissing "refresh_diagnostics"), session)

/-- The completion plugins of a session. -/
def completionPlugins (session : Session) : List CompletionPlugin :=
  if session.hasPlugins then [keywordPlugin] else []

/-- Offer completions. -/
def complete (session : Session) (request : CompletionRequest) : Answer × Session :=
  let (items, effects) := completeWith session.completionPlugins request
  (.items items, session.emitAll effects)

/-- Fill in a completion item. -/
def resolve (session : Session) (item : CompletionItem) : Answer × Session :=
  if session.hasPlugins then
    let (resolved, effects) := resolveWith item session.completionPlugins
    (.item resolved, session.emitAll effects)
  else (.item item, session)

/-- Cancel the task that answers a request of the client; tells whether there is one. -/
def cancelRequest (session : Session) (id : RequestId) : Bool × Session :=
  match session.tasks.reverse.find? (·.purpose.requestId? == some id) with
  | none => (false, session)
  | some task => (true, session.cancelTask task.ticket)

/-- Take a reply to the oldest refresh request; tells whether there is one. -/
def takeRefreshReply (session : Session) (reply : RefreshReply) : Bool × Session :=
  if session.refreshes = 0 then (false, session)
  else
    let session := { session with refreshes := session.refreshes - 1 }
    match reply with
    | .fault fault =>
        (true, session.log .warning ("Diagnostic refresh request failed: " ++ fault.described))
    | _ => (true, session)

/-- Ask for something that a task answers; settings can be asked for only with a cache. -/
def ask (session : Session) (uri : String) (purpose : Purpose) : Answer × Session :=
  match purpose, session.cache with
  | .settings _, none => (.fault (.componentMissing "get"), session)
  | _, _ => (.nothing, (session.startTask uri purpose).2)

/-- What a job does. -/
def perform (session : Session) : Job → Session
  | .start task => session.runStart task
  | .send request => session.sendRequest request
  | .deliver request => session.deliverReply request
  | .resume task => session.runResume task
  | .retire task => session.runRetire task

/-- A job happens, if it can. -/
def run (session : Session) (job : Job) : Session :=
  if job ∈ session.ready then { session with ready := session.ready.erase job }.perform job
  else session

/-- The answer to a notice that may be refused; a refused one changes nothing. -/
def attempt (session : Session) : Except Fault Session → Answer × Session
  | .ok session => (.nothing, session)
  | .error fault => (.fault fault, session)

/-- An event happens: its immediate answer, and the session after it. -/
def handle (session : Session) : Event → Answer × Session
  | .handshake client =>
      let session := session.shakeHands client
      (.announced (session.announcement client), session)
  | .clientReady refusal => (.nothing, session.registerForChanges refusal)
  | .opened uri text version language =>
      session.attempt (session.didOpen uri text version.value language)
  | .changed uri version edits => session.attempt (session.didChange uri version.value edits)
  | .closed uri => (.nothing, session.didClose uri)
  | .configured payload => session.configure payload
  | .foldersChanged => (.nothing, session.log .log "Workspace folder change event received.")
  | .filesChanged count =>
      (.nothing, session.log .log ("Watched files changed: " ++ toString count ++ " event(s)"))
  | .complete request => session.complete request
  | .resolve item => session.resolve item
  | .ask uri purpose _ => session.ask uri purpose
  | .cancel id =>
      let (found, session) := session.cancelRequest id
      (.flag found, session)
  | .reply request reply =>
      let (found, session) := session.handIn request reply
      (.flag found, session)
  | .refreshReply reply =>
      let (found, session) := session.takeRefreshReply reply
      (.flag found, session)
  | .storeChanged uri version edits =>
      match session.changeDocument uri version edits with
      | .ok (document, session) => (.document document, session)
      | .error fault => (.fault fault, session)
  | .evict uri =>
      if session.cache.isNone then (.fault (.componentMissing "evict"), session)
      else (.nothing, session.evict uri)
  | .schedule uri => (.nothing, session.schedule uri)
  | .cancelValidation uri => (.nothing, session.cancelValidation uri)
  | .useRule rule => (.text rule.description, { session with rule, taken := 0 })
  | .addHook event hook => (.nothing, { session with hooks := session.hooks.add hook event })
  | .failNextPublish fault =>
      (.nothing,
        { session with transport := { session.transport with publishFault := some fault } })
  | .failNextRefresh fault =>
      (.nothing,
        { session with transport := { session.transport with refreshFault := some fault } })
  | .run job => (.nothing, session.run job)

/-- The session after an event. -/
def step (session : Session) (event : Event) : Session :=
  (session.handle event).2

/-- The session after a run. -/
def runAll (session : Session) (events : List Event) : Session :=
  events.foldl step session

/-- The job that happens next when nothing else does: the first that is not the arrival of a reply,
else the first. -/
def next? (session : Session) : Option Job :=
  (session.ready.find? fun job => !job.isDelivery) <|> session.ready.head?

/-- Let a number of jobs happen, or as many as there are. -/
def settleFor : Nat → Session → Session
  | 0, session => session
  | count + 1, session =>
      match session.next? with
      | none => session
      | some job => settleFor count (session.run job)

/-- Let jobs happen until the session is idle. A task brings about at most three jobs: it makes a
request, it continues, and it is retired. -/
def settle (session : Session) : Session :=
  settleFor (session.ready.length + 3 * session.tasks.length) session

/-- A session before the handshake, with the rule it validates by. -/
def fresh (rule : Rule) (hasPlugins : Bool) : Session := { rule, hasPlugins }

/-- A session with a settings cache for a known client, and no handshake to come. -/
def forClient (client : ClientSupport) (timeout : Nat) : Session :=
  { client := some client, cache := some { timeout } }

end Session

end HazeServer
