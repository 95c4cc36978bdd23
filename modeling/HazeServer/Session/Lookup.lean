import HazeServer.Session.Basic

/-! # Looking up settings

A client that can be asked is asked once for each document; whoever needs the settings in the
meantime waits for the same request. The entry of a request that failed is removed by the first task
that learns of it, unless a newer request has taken its place. A request that led to a fault, or
that the client cancelled, stays in the cache and has the same outcome for every later look-up.
-/

namespace HazeServer

/-- The result of looking up settings. -/
inductive Lookup where
  | found (settings : Settings)
  | waiting (request : Ticket)
  | fault (fault : Fault)
  | cancelled
  deriving Repr

namespace Session

/-- Change the entries of the settings cache. -/
def updateEntries (session : Session) (update : Table Ticket → Table Ticket) : Session :=
  { session with
    cache := session.cache.map fun cache => { cache with entries := update cache.entries } }

/-- Forget the settings of a document. -/
def evict (session : Session) (uri : String) : Session :=
  session.updateEntries (·.erase uri)

/-- Forget the settings of all documents. -/
def clearEntries (session : Session) : Session :=
  session.updateEntries fun _ => .empty

/-- Forget a request, if it still is the one for its document. -/
def forgetRequest (session : Session) (request : Ticket) : Session :=
  session.updateEntries fun entries =>
    if entries.get? request.uri = some request then entries.erase request.uri else entries

/-- Replace the settings of a client that cannot be asked. -/
def updateGlobal (session : Session) (payload : Json) : Except Fault Session := do
  let settings ← Settings.ofPayload payload
  return { session with
    cache := session.cache.map fun cache => { cache with global := settings } }

/-- The request of a ticket. -/
def request? (session : Session) (ticket : Ticket) : Option Request :=
  session.requests.find? (·.ticket == ticket)

/-- How far the request of a ticket has come. -/
def requestState? (session : Session) (ticket : Ticket) : Option RequestState :=
  (session.request? ticket).map Request.state

/-- Change the state of a request. -/
def updateRequest (session : Session) (ticket : Ticket) (state : RequestState) : Session :=
  { session with
    requests := session.requests.map fun request =>
      if request.ticket = ticket then { request with state } else request }

/-- What a request led to, once it is settled. -/
def outcome? (session : Session) (ticket : Ticket) : Option Outcome :=
  (session.request? ticket).bind Request.outcome?

/-- Make a new request for the settings of a document, and its entry. -/
def askFor (session : Session) (uri : String) : Ticket × Session :=
  let (ticket, session) := session.issue uri
  let session := { session with requests := session.requests ++ [Request.mk ticket .unsent] }
  (ticket, (session.updateEntries (·.set uri ticket)).enqueue (.send ticket))

/-- What the outcome of a request means to a task that learns of it. -/
def learn (session : Session) (request : Ticket) : Outcome → Lookup × Session
  | .settings settings => (.found settings, session)
  | .failed => (.found .default, session.forgetRequest request)
  | .fault fault => (.fault fault, session)
  | .cancelled => (.cancelled, session)

/-- Look up the settings of a document. -/
def lookUp (session : Session) (uri : String) : Lookup × Session :=
  match session.cache with
  | none => (.found .default, session)
  | some cache =>
      if !session.asksClient then (.found cache.global, session)
      else
        match cache.entries.get? uri with
        | none =>
            let (request, session) := session.askFor uri
            (.waiting request, session)
        | some request =>
            match session.outcome? request with
            | none => (.waiting request, session)
            | some outcome => session.learn request outcome

/-- The warning for a request that failed. -/
def fetchWarning (uri : String) (fault : Fault) : Effect :=
  .log .warning ("Could not fetch settings for " ++ uri ++ ", using defaults: "
    ++ fault.described)

/-- What a reply leads to. -/
def outcomeOf : Reply → Outcome
  | .result value =>
      match Settings.ofReply value with
      | .ok settings => .settings settings
      | .error fault => .fault fault
  | .fault _ => .failed
  | .cancelled => .cancelled

/-- Settle a request by a reply: a failure is logged once, and the waiting tasks can continue in the
order in which they began to wait. -/
def settleRequest (session : Session) (ticket : Ticket) (reply : Reply) : Session :=
  let session := match reply with
    | .fault fault => session.emit (fetchWarning ticket.uri fault)
    | _ => session
  let waiting := session.tasks.filter (·.waitsFor ticket)
  let session := session.updateRequest ticket (.settled (outcomeOf reply))
  { session with ready := session.ready ++ waiting.map fun task => .resume task.ticket }

/-- Send a request, or let it fail at once if there is no time to wait for a reply. -/
def sendRequest (session : Session) (ticket : Ticket) : Session :=
  match session.requestState? ticket with
  | some .unsent =>
      if session.cache.any (·.timeout == 0) then
        session.settleRequest ticket (.fault (.reported .timeout ""))
      else (session.updateRequest ticket .sent).emit (.askSettings ticket.uri)
  | _ => session

/-- Let a reply that was handed in reach the cache. -/
def deliverReply (session : Session) (ticket : Ticket) : Session :=
  match session.requestState? ticket with
  | some (.answered reply) => session.settleRequest ticket reply
  | _ => session

/-- The outstanding requests, in the order they were made. -/
def outstanding (session : Session) : List Ticket :=
  (session.requests.filter (·.isOutstanding)).map (·.ticket)

/-- Hand in a reply to an outstanding request; tells whether it is one. -/
def handIn (session : Session) (request : Ticket) (reply : Reply) : Bool × Session :=
  if request ∈ session.outstanding then
    (true, (session.updateRequest request (.answered reply)).enqueue (.deliver request))
  else (false, session)

end Session

end HazeServer
