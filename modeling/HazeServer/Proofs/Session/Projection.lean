import HazeServer.Proofs.Session.Saying
import Mathlib.Data.List.Basic

/-! # Parts of a session

A part of a session leaves some of it out. An operation respects the part if what becomes of the part
depends on nothing else, so that it does the same to all sessions with that part. A `Projection` is a
part together with what it has to keep for this: who the client is, the rule and the transport, and for
the documents that it covers their records, requests and entries. Then the turns of tasks about these
documents respect it, and so does what becomes of their requests.
-/

namespace HazeServer

namespace Session

/-- What an operation makes of a part of the session depends on that part only. -/
def Respects (part operation : Session → Session) : Prop :=
  ∀ session, part (operation session) = part (operation (part session))

section Respecting

variable {part first second : Session → Session}

/-- It does the same to sessions that have the part in common. -/
theorem Respects.congr (respects : Respects part first) {left right : Session}
    (same : part left = part right) : part (first left) = part (first right) := by
  rw [respects, same, ← respects]

theorem Respects.comp (left : Respects part first) (right : Respects part second) :
    Respects part fun session => second (first session) :=
  fun session => right.congr (left session)

end Respecting

/-- Let the tasks that wait for a request continue. -/
def resumeAll (session : Session) (ticket : Ticket) : Session :=
  { session with
    ready := session.ready ++
      (session.tasks.filter (·.waitsFor ticket)).map fun task => .resume task.ticket }

/-- Tasks changed in place, under their own tickets, are so among those with certain tickets. -/
theorem filter_map_tasks (chosen : Ticket → Bool) (change : Task → Task)
    (keeps : ∀ task, (change task).ticket = task.ticket) (tasks : List Task) :
    (tasks.map change).filter (chosen ·.ticket) = (tasks.filter (chosen ·.ticket)).map change := by
  rw [List.filter_map]
  congr 1
  apply List.filter_congr
  intro task _
  rw [Function.comp_apply, keeps]

theorem updatedTask_ticket (task held : Task) :
    (if held.ticket = task.ticket then task else held).ticket = held.ticket := by
  split
  · next same => exact same.symm
  · rfl

/-- The tasks with certain tickets continue by the jobs for these tickets. -/
theorem filter_map_resume (chosen : Ticket → Bool) (kept : Job → Bool)
    (same : ∀ ticket, kept (.resume ticket) = chosen ticket) (ticket : Ticket) (tasks : List Task) :
    ((tasks.filter (·.waitsFor ticket)).map fun task => Job.resume task.ticket).filter kept =
      ((tasks.filter (chosen ·.ticket)).filter (·.waitsFor ticket)).map
        fun task => Job.resume task.ticket := by
  rw [List.filter_map, List.filter_comm]
  congr 2
  apply List.filter_congr
  intro task _
  exact same task.ticket

/-- A part of a session in which the tasks and requests of certain documents are as in the whole. -/
structure Projection where
  part : Session → Session
  /-- The documents whose records, requests and entries are in the part. -/
  covers : String → Prop
  /-- The jobs that are in the part. -/
  keeps : Job → Prop
  twice : ∀ session, part (part session) = part session
  -- what is read of the session as a whole
  client : ∀ session, (part session).client = session.client
  rule : ∀ session, (part session).rule = session.rule
  hasPlugins : ∀ session, (part session).hasPlugins = session.hasPlugins
  transport : ∀ session, (part session).transport = session.transport
  timeout : ∀ session, (part session).cache.map (·.timeout) = session.cache.map (·.timeout)
  -- what is read of a document
  stored : ∀ session {uri}, covers uri → (part session).store.get? uri = session.store.get? uri
  request : ∀ session {ticket : Ticket}, covers ticket.uri →
    (part session).request? ticket = session.request? ticket
  entered : ∀ session {uri}, covers uri →
    (part session).validating.get? uri = session.validating.get? uri
  cached : ∀ session {uri}, covers uri →
    (part session).cache.map (fun cache => (cache.global, cache.entries.get? uri)) =
      session.cache.map fun cache => (cache.global, cache.entries.get? uri)
  next : ∀ session {uri}, covers uri → (part session).nextTicket uri = session.nextTicket uri
  -- what is written besides
  emits : ∀ effects, Respects part (·.emitAll effects)
  fails : ∀ transport, Respects part fun session => { session with transport }
  counts : ∀ number, Respects part fun session => { session with taken := session.taken + number }
  greets : ∀ client : ClientProfile, Respects part fun session =>
    { session with
      client := some client.support
      store := { session.store with encoding := some client.encoding }
      cache := some {}
      hooks := session.hooks.add .eviction .closed }
  -- what is written for a document
  retirement : ∀ {ticket : Ticket}, covers ticket.uri → keeps (.retire ticket)
  queues : ∀ session {job}, keeps job → part (session.enqueue job) = (part session).enqueue job
  changes : ∀ session task, part (session.updateTask task) = (part session).updateTask task
  drops : ∀ session (ticket : Ticket),
    part { session with tasks := session.tasks.filter (·.ticket ≠ ticket) } =
      { part session with tasks := (part session).tasks.filter (·.ticket ≠ ticket) }
  moves : ∀ session ticket state,
    part (session.updateRequest ticket state) = (part session).updateRequest ticket state
  resumes : ∀ session ticket, part (session.resumeAll ticket) = (part session).resumeAll ticket
  asks : ∀ session {uri}, covers uri → part (session.askFor uri).2 = ((part session).askFor uri).2
  forgets : ∀ session {request : Ticket}, covers request.uri →
    part (session.forgetRequest request) = (part session).forgetRequest request
  retires : ∀ session uri, part { session with validating := session.validating.erase uri } =
    { part session with validating := (part session).validating.erase uri }

namespace Projection

variable (view : Projection)

theorem of_exact {operation : Session → Session}
    (same : ∀ session, view.part (operation session) = operation (view.part session)) :
    Respects view.part operation := by
  intro session
  rw [same, same, view.twice]

section Reading

variable (session : Session)

theorem asksClient : (view.part session).asksClient = session.asksClient := by
  unfold Session.asksClient
  rw [view.client]

private theorem lacksPlugins (purpose : Purpose) :
    (view.part session).lacksPlugins purpose = session.lacksPlugins purpose := by
  unfold Session.lacksPlugins
  rw [view.hasPlugins]

private theorem outOfTime :
    (view.part session).cache.any (·.timeout == 0) = session.cache.any (·.timeout == 0) := by
  have timeout := congrArg (Option.any (· == 0)) (view.timeout session)
  rwa [Option.any_map, Option.any_map] at timeout

variable {uri : String} (covered : view.covers uri)
include covered

private theorem isCurrent (subject : Subject) (version : Json) :
    (view.part session).isCurrent uri subject version = session.isCurrent uri subject version := by
  unfold Session.isCurrent
  rw [view.stored session covered]

private theorem subjectDocument (subject : Subject) :
    (view.part session).subjectDocument uri subject = session.subjectDocument uri subject := by
  cases subject with
  | stored => exact view.stored session covered
  | withdrawn document => rfl

end Reading

section Requests

variable (session : Session) {ticket : Ticket} (covered : view.covers ticket.uri)
include covered

theorem requestState? : (view.part session).requestState? ticket = session.requestState? ticket := by
  unfold Session.requestState?
  rw [view.request session covered]

theorem outcome? : (view.part session).outcome? ticket = session.outcome? ticket := by
  unfold Session.outcome?
  rw [view.request session covered]

omit covered in
theorem settleRequest (ticket : Ticket) (reply : Reply) :
    Respects view.part (·.settleRequest ticket reply) := by
  have settled (state : RequestState) :
      Respects view.part fun session => (session.updateRequest ticket state).resumeAll ticket := by
    apply view.of_exact
    intro session
    rw [view.resumes, view.moves]
  unfold Session.settleRequest
  cases reply with
  | fault fault => exact (view.emits [fetchWarning ticket.uri fault]).comp (settled _)
  | result value => exact settled _
  | cancelled => exact settled _

theorem sendRequest :
    view.part (session.sendRequest ticket) = view.part ((view.part session).sendRequest ticket) := by
  simp only [Session.sendRequest, view.requestState? session covered, view.outOfTime]
  split
  · split
    · exact view.settleRequest ticket _ session
    · have sent : Respects view.part fun session =>
          (session.updateRequest ticket .sent).emitAll [.askSettings ticket.uri] :=
        (view.of_exact (view.moves · ticket .sent)).comp (view.emits _)
      exact sent session
  · exact (view.twice session).symm

theorem deliverReply :
    view.part (session.deliverReply ticket) = view.part ((view.part session).deliverReply ticket) := by
  simp only [Session.deliverReply, view.requestState? session covered]
  split
  · next reply _ => exact view.settleRequest ticket reply session
  · exact (view.twice session).symm

theorem learn (outcome : Outcome) :
    (view.part session).learn ticket outcome =
      ((session.learn ticket outcome).1, view.part (session.learn ticket outcome).2) := by
  cases outcome with
  | failed => simp only [Session.learn, view.forgets session covered]
  | settings => rfl
  | fault => rfl
  | cancelled => rfl

theorem runRetire : Respects view.part (·.runRetire ticket) := by
  apply view.of_exact
  intro session
  unfold Session.runRetire
  rw [view.entered session covered]
  split
  · exact view.retires session ticket.uri
  · rfl

end Requests

section Tasks

theorem answer (task : Task) (response : Response) :
    Respects view.part (·.answer task response) := by
  simp only [answer_eq_emitAll]
  exact view.emits _

theorem publish (publication : Publication) : Respects view.part (·.publish publication |>.2) := by
  intro session
  simp only [Session.publish, transmit, view.transport]
  cases publication.fault? with
  | some fault => exact (view.twice session).symm
  | none =>
    cases session.transport.publishFault with
    | some fault => exact view.fails _ session
    | none => exact view.emits [.publish publication] session

theorem cancelTask (session : Session) {ticket : Ticket} (kept : view.keeps (.resume ticket))
    (found : (view.part session).task? ticket = session.task? ticket) :
    view.part (session.cancelTask ticket) = (view.part session).cancelTask ticket := by
  unfold Session.cancelTask
  rw [found]
  cases session.task? ticket with
  | none => rfl
  | some task =>
    simp only
    split
    · rfl
    · cases task.stage with
      | created => exact view.changes session _
      | waiting =>
        simp only
        rw [view.queues _ kept, view.changes]

variable {task : Task} (covered : view.covers task.uri)
include covered

theorem endTask (session : Session) :
    view.part (session.endTask task) = (view.part session).endTask task := by
  unfold Session.endTask
  cases task.purpose with
  | push =>
    simp only
    rw [view.queues _ (view.retirement covered), view.drops]
  | pull => exact view.drops session task.ticket
  | diagnose => exact view.drops session task.ticket
  | settings => exact view.drops session task.ticket

/-- A task that only answers ends the same way. -/
theorem answer_endTask (response : Response) :
    Respects view.part fun session => (session.answer task response).endTask task :=
  (view.answer task response).comp (view.of_exact (view.endTask covered))

theorem finishValidation (subject : Subject) (version : Json)
    (result : Except Fault (List Diagnostic)) :
    Respects view.part (·.finishValidation task subject version result) := by
  unfold Session.finishValidation
  cases task.purpose with
  | push =>
    cases result with
    | error fault => exact view.emits [validationFailure task.uri fault]
    | ok diagnostics =>
      intro session
      simp only [finishPush, view.isCurrent session covered]
      split
      · exact view.publish _ session
      · exact (view.twice session).symm
  | pull id => exact (view.emits _).comp (view.answer task _)
  | diagnose id =>
    cases result with
    | error fault => exact view.answer task (.fault fault)
    | ok items => exact view.answer task (.diagnostics items)
  | settings id => exact fun session => (view.twice session).symm

private theorem validateWith (subject : Subject) (version : Json) (settings : Settings) :
    Respects view.part (·.validateWith task subject version settings) := by
  intro session
  have same : (view.part session).rule.validate (showsRelated (view.part session).client) =
      session.rule.validate (showsRelated session.client) := by
    rw [view.rule, view.client]
  simp only [Session.validateWith, view.subjectDocument session covered, same]
  cases session.subjectDocument task.uri subject with
  | none => exact (view.twice session).symm
  | some document =>
    exact ((view.counts _).comp (view.finishValidation covered subject version _)) session

/-- What a task does with what it looked up respects the part. -/
theorem proceed (subject : Subject) (version : Json) (lookup : Lookup) :
    Respects view.part (·.proceed task subject version lookup) := by
  have ended := view.of_exact (view.endTask covered)
  unfold Session.proceed
  cases lookup with
  | waiting request => exact view.of_exact (view.changes · _)
  | cancelled => exact view.answer_endTask covered .cancelled
  | fault fault =>
    cases task.purpose with
    | settings id => exact view.answer_endTask covered (.fault fault)
    | _ => exact (view.finishValidation covered subject version (.error fault)).comp ended
  | found settings =>
    cases task.purpose with
    | settings id => exact view.answer_endTask covered (.settings settings)
    | _ => exact (view.validateWith covered subject version settings).comp ended

end Tasks

section Turns

variable {session : Session}

/-- The entry of a document, if it has one, is a request for a document that the part covers. -/
def Asks (session : Session) (uri : String) : Prop :=
  ∀ cache request, session.cache = some cache → cache.entries.get? uri = some request →
    view.covers request.uri

private theorem lookUp {uri : String} (covered : view.covers uri) (asked : view.Asks session uri) :
    (view.part session).lookUp uri =
      ((session.lookUp uri).1, view.part (session.lookUp uri).2) := by
  have cached := view.cached session covered
  unfold Session.lookUp
  rw [view.asksClient]
  cases held : session.cache with
  | none =>
    rw [held, Option.map_none, Option.map_eq_none_iff] at cached
    rw [cached]
  | some cache =>
    rw [held, Option.map_some, Option.map_eq_some_iff] at cached
    obtain ⟨kept, present, same⟩ := cached
    obtain ⟨global, entry⟩ := Prod.mk.inj same
    simp only [present, global, entry]
    cases session.asksClient with
    | false => rfl
    | true =>
      simp only [Bool.not_true, Bool.false_eq_true, ↓reduceIte]
      cases listed : cache.entries.get? uri with
      | none =>
        simp only [view.asks session covered]
        exact congrArg (fun request => (Lookup.waiting request, _)) (view.next session covered)
      | some request =>
        have about := asked cache request held listed
        simp only [view.outcome? session about]
        cases session.outcome? request with
        | none => rfl
        | some outcome => exact view.learn session about outcome

variable {task : Task} (covered : view.covers task.uri)
include covered

private theorem beginTask (asked : view.Asks session task.uri) :
    view.part (session.beginTask task) = view.part ((view.part session).beginTask task) := by
  have consulted (version : Json) : view.part (session.consult task version) =
      view.part ((view.part session).consult task version) := by
    change view.part ((session.lookUp task.uri).2.proceed task .stored version (session.lookUp task.uri).1) =
      view.part (((view.part session).lookUp task.uri).2.proceed task .stored version
        ((view.part session).lookUp task.uri).1)
    rw [view.lookUp covered asked]
    exact view.proceed covered .stored version _ _
  have ended := view.answer_endTask covered (emptyResponse task.purpose) session
  simp only [Session.beginTask, view.lacksPlugins, view.stored session covered]
  split
  · exact consulted .null
  · split
    · exact ended
    · split
      · exact ended
      · next document _ => exact consulted document.version

omit covered

theorem runStart {ticket : Ticket} (covered : view.covers ticket.uri)
    (found : (view.part session).task? ticket = session.task? ticket)
    (asked : view.Asks session ticket.uri) :
    view.part (session.runStart ticket) = view.part ((view.part session).runStart ticket) := by
  unfold Session.runStart
  rw [found]
  cases held : session.task? ticket with
  | none => exact (view.twice session).symm
  | some task =>
    have own : task.uri = ticket.uri := congrArg Ticket.uri (ticket_of_task? held)
    rw [← own] at covered asked
    simp only
    split
    · exact (view.twice session).symm
    · split
      · exact view.answer_endTask covered .cancelled session
      · exact view.beginTask covered asked

/-- A task that continues reads only the request that it waits for. -/
theorem runResume {ticket : Ticket} (covered : view.covers ticket.uri)
    (found : (view.part session).task? ticket = session.task? ticket)
    (awaited : ∀ task request subject version, session.task? ticket = some task →
      task.stage = .waiting request subject version → view.covers request.uri) :
    view.part (session.runResume ticket) = view.part ((view.part session).runResume ticket) := by
  unfold Session.runResume
  rw [found]
  cases held : session.task? ticket with
  | none => exact (view.twice session).symm
  | some task =>
    have own : task.uri = ticket.uri := congrArg Ticket.uri (ticket_of_task? held)
    rw [← own] at covered
    simp only
    cases stage : task.stage with
    | created => exact (view.twice session).symm
    | waiting request subject version =>
      have about := awaited task request subject version held stage
      simp only [view.outcome? session about]
      split
      · exact view.answer_endTask covered .cancelled session
      · split
        · exact (view.twice session).symm
        · next outcome _ =>
          rw [view.learn session about]
          exact view.proceed covered subject version _ _

end Turns

section Events

theorem shakeHands (client : ClientProfile) : Respects view.part (·.shakeHands client) := by
  intro session
  simp only [Session.shakeHands, view.client]
  split
  · exact view.emits [.log .warning "Ignoring repeated initialize request"] session
  · exact view.greets client session

theorem registerForChanges (refusal : Option Fault) :
    Respects view.part (·.registerForChanges refusal) := by
  intro session
  simp only [Session.registerForChanges, view.asksClient]
  split
  · exact (view.twice session).symm
  · have registered := view.emits [.register ["workspace/didChangeConfiguration"]]
    cases refusal with
    | none => exact registered session
    | some fault =>
      exact (registered.comp (view.emits [.log .warning
        ("Could not register for configuration changes: " ++ fault.message)])) session

theorem resolve (item : CompletionItem) : Respects view.part (·.resolve item |>.2) := by
  intro session
  simp only [Session.resolve, completionPlugins, view.hasPlugins]
  split
  · exact view.emits _ session
  · exact (view.twice session).symm

end Events

end Projection

end Session

end HazeServer
