import HazeServer.Proofs.Session.Wiring
import Mathlib.Logic.Relation

/-! # Moves

Whatever a session does for a document is a sequence of moves about that document. `Move` lists them,
each with what holds when it is made; jobs, hooks and refreshes are then taken apart once, and what
is true of every move is true of them.
-/

namespace HazeServer

/-- Whether an effect neither publishes diagnostics nor answers a request. -/
def Effect.isPlain : Effect → Bool
  | .publish _ => false
  | .respond .. => false
  | _ => true

/-- Whether an effect is the warning for a settings request that failed. -/
def Effect.isFetchWarning : Effect → Bool
  | .log .warning message => "Could not fetch settings for ".toList.isPrefixOf message.toList
  | _ => false

/-- Whether an effect is about fetching settings: a request that goes out, or the warning that one has
failed. -/
def Effect.isFetch : Effect → Bool
  | .askSettings _ => true
  | effect => effect.isFetchWarning

/-- The empty publication for a document that was closed. -/
def closeNotice (uri : String) : Publication := { uri, version := .null, diagnostics := [] }

/-- The URI that a job is about. -/
def Job.uri : Job → String
  | .start ticket | .send ticket | .deliver ticket | .resume ticket | .retire ticket => ticket.uri

/-- The document that an event is about, if it is about one. -/
def Event.document? : Event → Option String
  | .opened uri _ _ _ | .changed uri _ _ | .closed uri | .ask uri _ _
  | .storeChanged uri _ _ | .evict uri | .schedule uri | .cancelValidation uri => some uri
  | .reply request _ => some request.uri
  | .run job => some job.uri
  | _ => none

/-- Whether an event is a job about a document. -/
def Event.RunsFor (event : Event) (uri : String) : Prop :=
  ∃ job, event = .run job ∧ job.uri = uri

/-- Whether an event is a notice about a document. -/
def Event.notifies (notice : DocumentEvent) (uri : String) : Event → Bool
  | .opened named .. => notice = .opened ∧ named = uri
  | .changed named .. => notice = .changed ∧ named = uri
  | .closed named => notice = .closed ∧ named = uri
  | _ => false

theorem Event.calm_of_notifies {event : Event} {notice : DocumentEvent} {uri : String}
    (notified : event.notifies notice uri = true) (other : String) : ¬ event.RunsFor other := by
  rintro ⟨job, rfl, _⟩
  cases notified

theorem Event.eq_of_notifies_closed {event : Event} {uri : String}
    (notified : event.notifies .closed uri = true) : event = .closed uri := by
  cases event <;> simp_all [notifies]

/-- What an event can say by the way: it publishes nothing, answers nothing and fetches no settings, and
only a change of the configuration asks the client to refresh. -/
def Event.Tells (event : Event) : Effect → Prop
  | .publish _ => False
  | .respond .. => False
  | .askRefresh => ∃ payload, event = .configured payload
  | effect => effect.isFetch = false

theorem Event.Tells.unfetched {event : Event} {effect : Effect} (told : event.Tells effect) :
    effect.isFetch = false := by
  cases effect with
  | publish => rfl
  | respond => rfl
  | askRefresh => rfl
  | _ => exact told

/-- A warning that begins with other words is not about settings. -/
theorem Event.tells_warning (event : Event) {message : String}
    (apart : ¬ "Could not fetch settings for ".toList <+: message.toList) :
    event.Tells (.log .warning message) := by
  change "Could not fetch settings for ".toList.isPrefixOf message.toList = false
  rw [Bool.eq_false_iff]
  exact fun same => apart (List.isPrefixOf_iff_prefix.mp same)

namespace Session

/-- Whether an event calls for the settings of a document to be forgotten. -/
def CallsForEviction (session : Session) (event : Event) (uri : String) : Prop :=
  event = .evict uri ∨
    ∃ notice, event.notifies notice uri = true ∧ .eviction ∈ session.hooks.of notice

/-- The request in the cache for a document, with what it led to. -/
def EntryLedTo (session : Session) (uri : String) (outcome : Outcome) : Prop :=
  ∃ cache request, session.cache = some cache ∧ cache.entries.get? uri = some request ∧
    session.outcome? request = some outcome

/-- A step that a session takes for one document when an event happens. -/
inductive Move (event : Event) (uri : String) (session : Session) : Session → Prop where
  /-- Say something by the way. -/
  | tell (effects : List Effect) (told : ∀ effect ∈ effects, event.Tells effect) :
      Move event uri session (session.emitAll effects)
  | answer (id : RequestId) (response : Response) (runs : event.RunsFor uri) :
      Move event uri session (session.emit (.respond uri id response))
  | count (taken : Nat) : Move event uri session { session with taken }
  /-- Note what became of a request to refresh. -/
  | refresh (refreshes : Nat) (transport : Transport)
      (general : event.document? = none)
      (kept : transport.publishFault = session.transport.publishFault) :
      Move event uri session { session with refreshes, transport }
  /-- Publish what a validation of the stored document found. -/
  | push (version : Json) (diagnostics : List Diagnostic) (document : Document) (limit : Nat)
      (runs : event.RunsFor uri) (held : session.store.get? uri = some document)
      (same : document.version.equals version = true)
      (valid : (session.rule.validate (showsRelated session.client) limit document).result =
        .ok diagnostics) :
      Move event uri session (session.publish ⟨uri, version, diagnostics⟩).2
  /-- Publish the notice that the document was closed. -/
  | notice (closes : event = .closed uri) (absent : session.store.get? uri = none) :
      Move event uri session (session.publish (closeNotice uri)).2
  /-- Begin to answer a request of the client. -/
  | begin (purpose : Purpose) (answered : purpose.requestId?.isSome)
      (asks : event = .ask uri purpose answered) :
      Move event uri session (session.startTask uri purpose).2
  | schedule (calm : ¬ event.RunsFor uri) : Move event uri session (session.schedule uri)
  | takeBack (closes : event = .closed uri ∨ event = .cancelValidation uri) :
      Move event uri session (session.cancelValidation uri)
  /-- Cancel the answer to a request of the client. -/
  | cancel (task : Task) (id : RequestId) (member : task ∈ session.tasks) (here : task.uri = uri)
      (answers : task.purpose.requestId? = some id) (cancels : event = .cancel id) :
      Move event uri session (session.cancelTask task.ticket)
  | finish (task : Task) (runs : event.RunsFor uri) (found : session.task? task.ticket = some task)
      (here : task.uri = uri) : Move event uri session (session.endTask task)
  /-- Let a task that has begun wait for the request in the cache. -/
  | wait (task : Task) (request : Ticket) (version : Json) (cache : Cache)
      (starts : event = .run (.start task.ticket)) (found : session.task? task.ticket = some task)
      (here : task.uri = uri) (new : task.stage = .created) (live : task.cancelled = false)
      (sees : session.Sees task version) (present : session.cache = some cache)
      (entry : cache.entries.get? uri = some request)
      (unsettled : session.outcome? request = none) (asks : session.asksClient = true) :
      Move event uri session
        (session.updateTask { task with stage := .waiting request .stored version })
  | ask (cache : Cache) (runs : event.RunsFor uri) (present : session.cache = some cache)
      (absent : cache.entries.get? uri = none) : Move event uri session (session.askFor uri).2
  | evict (cause : session.CallsForEviction event uri ∨
        (event.RunsFor uri ∧ session.EntryLedTo uri .failed)) :
      Move event uri session (session.evict uri)
  | sent (ticket : Ticket) (runs : event.RunsFor uri) (here : ticket.uri = uri)
      (unsent : session.requestState? ticket = some .unsent) :
      Move event uri session ((session.updateRequest ticket .sent).emit (.askSettings ticket.uri))
  /-- Settle a request by its reply, or let it fail for want of time. -/
  | settle (ticket : Ticket) (reply : Reply) (runs : event.RunsFor uri) (here : ticket.uri = uri)
      (due : session.requestState? ticket = some (.answered reply) ∨
        (session.requestState? ticket = some .unsent ∧ reply = .fault (.reported .timeout ""))) :
      Move event uri session (session.settleRequest ticket reply)
  /-- Take a reply of the client. -/
  | receive (ticket : Ticket) (reply : Reply) (here : ticket.uri = uri)
      (replies : event = .reply ticket reply) (sent : ticket ∈ session.outstanding) :
      Move event uri session
        ((session.updateRequest ticket (.answered reply)).enqueue (.deliver ticket))
  | retire (ticket : Ticket) (runs : event.RunsFor uri) (here : ticket.uri = uri)
      (ended : session.task? ticket = none) : Move event uri session (session.runRetire ticket)

/-- Any number of moves for a document. -/
abbrev Moves (event : Event) (uri : String) : Session → Session → Prop :=
  Relation.ReflTransGen (Move event uri)

theorem moves_emit (session : Session) (event : Event) (uri : String) (effect : Effect)
    (told : event.Tells effect) : Moves event uri session (session.emit effect) :=
  .single (.tell [effect] (by simpa using told))

theorem answer_eq_emitAll (session : Session) (task : Task) (response : Response) :
    session.answer task response =
      session.emitAll
        ((task.purpose.requestId?.map fun id => Effect.respond task.uri id response).toList) := by
  unfold answer
  cases task.purpose.requestId? with
  | none => simp [emitAll]
  | some id => rfl

theorem moves_answer (session : Session) {event : Event} (task : Task) (response : Response)
    (runs : event.RunsFor task.uri) :
    Moves event task.uri session (session.answer task response) := by
  unfold answer
  cases task.purpose.requestId? with
  | none => exact .refl
  | some id => exact .single (.answer id response runs)

/-- Forgetting a request is forgetting the settings of its document, or nothing. -/
theorem forgetRequest_cases (session : Session) (request : Ticket) :
    session.forgetRequest request = session ∨
      (session.forgetRequest request = session.evict request.uri ∧
        ∃ cache, session.cache = some cache ∧ cache.entries.get? request.uri = some request) := by
  unfold forgetRequest Session.evict updateEntries
  cases held : session.cache with
  | none => exact .inl (by rw [Option.map_none, ← held])
  | some cache =>
    simp only [Option.map_some]
    split
    · next entry => exact .inr ⟨rfl, cache, rfl, entry⟩
    · left
      change { session with cache := some cache } = session
      rw [← held]

theorem learn_cases (session : Session) (request : Ticket) (outcome : Outcome) :
    (session.learn request outcome).2 = session ∨
      (outcome = .failed ∧ (session.learn request outcome).2 = session.evict request.uri ∧
        ∃ cache, session.cache = some cache ∧ cache.entries.get? request.uri = some request) := by
  cases outcome with
  | failed => exact (session.forgetRequest_cases request).imp_right fun evicted => ⟨rfl, evicted⟩
  | settings settings => exact .inl rfl
  | fault fault => exact .inl rfl
  | cancelled => exact .inl rfl

/-- A publication is refused, lost by the transport, or sent. -/
theorem publish_cases (session : Session) (publication : Publication) :
    (publication.fault?.isSome ∧ (session.publish publication).2 = session) ∨
      (publication.fault? = none ∧ ∃ transport,
        session.transport.publishFault.isSome ∧ transport.publishFault = none ∧
          (session.publish publication).2 = { session with transport }) ∨
      (publication.fault? = none ∧ session.transport.publishFault = none ∧
        (session.publish publication).2 = session.emit (.publish publication)) := by
  unfold publish transmit
  cases publication.fault? with
  | some fault => exact .inl ⟨rfl, rfl⟩
  | none =>
    right
    cases session.transport.publishFault with
    | some fault => exact .inl ⟨rfl, _, rfl, rfl, rfl⟩
    | none => exact .inr ⟨rfl, rfl, rfl⟩

theorem tasks_publish (session : Session) (publication : Publication) :
    (session.publish publication).2.tasks = session.tasks := by
  rw [session.publish_frame publication]

theorem tasks_finishValidation (session : Session) (task : Task) (subject : Subject)
    (version : Json) (result : Except Fault (List Diagnostic)) :
    (session.finishValidation task subject version result).tasks = session.tasks := by
  unfold finishValidation
  cases task.purpose with
  | push =>
    simp only
    unfold finishPush
    cases result with
    | error fault => rfl
    | ok diagnostics =>
      simp only
      split
      · exact session.tasks_publish _
      · rfl
  | pull id => simp only [answer_eq_emitAll]; rfl
  | diagnose id => cases result <;> simp only [answer_eq_emitAll] <;> rfl
  | settings id => rfl

/-- A result that a validation of the document of a task has. -/
def Yields (session : Session) (task : Task) (subject : Subject)
    (result : Except Fault (List Diagnostic)) : Prop :=
  ∀ diagnostics, result = .ok diagnostics → ∃ document limit,
    session.subjectDocument task.uri subject = some document ∧
      (session.rule.validate (showsRelated session.client) limit document).result = .ok diagnostics

theorem isCurrent_iff {session : Session} {uri : String} {subject : Subject} {version : Json} :
    session.isCurrent uri subject version = true ↔
      subject = .stored ∧ ∃ document, session.store.get? uri = some document ∧
        document.version.equals version = true := by
  simp only [isCurrent, Bool.and_eq_true, decide_eq_true_eq, Option.any_eq_true]

private theorem moves_finishPush (session : Session) {event : Event} (task : Task) (subject : Subject)
    (version : Json) (result : Except Fault (List Diagnostic)) (runs : event.RunsFor task.uri)
    (yields : session.Yields task subject result) :
    Moves event task.uri session (session.finishPush task.uri subject version result) := by
  unfold finishPush
  cases result with
  | error fault => exact session.moves_emit event task.uri _ rfl
  | ok diagnostics =>
    simp only
    split
    · next current =>
      obtain ⟨rfl, document, held, same⟩ := isCurrent_iff.mp current
      obtain ⟨found, limit, stored, valid⟩ := yields diagnostics rfl
      obtain rfl : found = document := Option.some.inj (stored.symm.trans held)
      exact .single (.push version diagnostics found limit runs held same valid)
    · exact .refl

theorem tells_failureLogs {α : Type} (event : Event) (task : String)
    (attempts : List (String × Attempt α)) :
    ∀ effect ∈ failureLogs task attempts, event.Tells effect := by
  intro effect member
  obtain ⟨attempt, _, logged⟩ := List.mem_filterMap.mp member
  cases given : attempt.2 with
  | declined => simp [given] at logged
  | gave items => simp [given] at logged
  | failed fault =>
    simp only [given, Option.some.injEq] at logged
    rw [← logged]
    rfl

private theorem moves_finishValidation (session : Session) {event : Event} (task : Task)
    (subject : Subject) (version : Json) (result : Except Fault (List Diagnostic))
    (runs : event.RunsFor task.uri) (yields : session.Yields task subject result) :
    Moves event task.uri session (session.finishValidation task subject version result) := by
  unfold finishValidation
  cases task.purpose with
  | push => exact session.moves_finishPush task subject version result runs yields
  | pull id =>
    exact .head (.tell _ (tells_failureLogs event _ _)) (moves_answer _ task (.report _) runs)
  | diagnose id => cases result <;> exact session.moves_answer task _ runs
  | settings id => exact .refl

/-- A task that has its result ends. -/
theorem moves_endTask (session : Session) {event : Event} (task : Task)
    (runs : event.RunsFor task.uri) (found : session.task? task.ticket = some task) :
    Moves event task.uri session (session.endTask task) :=
  .single (.finish task runs found rfl)

theorem moves_answer_endTask (session : Session) {event : Event} (task : Task)
    (response : Response) (runs : event.RunsFor task.uri)
    (found : session.task? task.ticket = some task) :
    Moves event task.uri session ((session.answer task response).endTask task) := by
  refine .trans (session.moves_answer task response runs) (moves_endTask _ task runs ?_)
  rw [answer_eq_emitAll]
  exact found

theorem moves_finish_endTask (session : Session) {event : Event} (task : Task) (subject : Subject)
    (version : Json) (result : Except Fault (List Diagnostic)) (runs : event.RunsFor task.uri)
    (yields : session.Yields task subject result)
    (found : session.task? task.ticket = some task) :
    Moves event task.uri session
      ((session.finishValidation task subject version result).endTask task) := by
  refine .trans (session.moves_finishValidation task subject version result runs yields)
    (moves_endTask _ task runs ?_)
  unfold task?
  rw [tasks_finishValidation]
  exact found

private theorem moves_validateWith (session : Session) {event : Event} (task : Task) (subject : Subject)
    (version : Json) (settings : Settings) (runs : event.RunsFor task.uri)
    (found : session.task? task.ticket = some task) :
    Moves event task.uri session
      ((session.validateWith task subject version settings).endTask task) := by
  unfold validateWith
  cases about : session.subjectDocument task.uri subject with
  | none => exact session.moves_endTask task runs found
  | some document =>
    refine .head (.count _) (moves_finish_endTask _ task subject version _ runs ?_ found)
    intro diagnostics valid
    exact ⟨document, settings.problemLimit, about, valid⟩

/-- A task that does not go on to wait ends. -/
theorem moves_proceed (session : Session) {event : Event} (task : Task) (subject : Subject)
    (version : Json) (lookup : Lookup) (runs : event.RunsFor task.uri)
    (found : session.task? task.ticket = some task)
    (ends : ∀ request, lookup ≠ .waiting request) :
    Moves event task.uri session (session.proceed task subject version lookup) := by
  unfold proceed
  cases lookup with
  | waiting request => exact absurd rfl (ends request)
  | cancelled => exact session.moves_answer_endTask task .cancelled runs found
  | fault fault =>
    have failed : session.Yields task subject (.error fault) := by
      intro diagnostics same
      cases same
    simp only
    split
    · exact session.moves_answer_endTask task (.fault fault) runs found
    · exact session.moves_finish_endTask task subject version (.error fault) runs failed found
  | found settings =>
    simp only
    split
    · exact session.moves_answer_endTask task (.settings settings) runs found
    · exact session.moves_validateWith task subject version settings runs found

theorem learn_not_waiting (session : Session) (request other : Ticket) (outcome : Outcome) :
    (session.learn request outcome).1 ≠ .waiting other := by
  cases outcome <;> simp [learn]

theorem moves_learn (session : Session) {event : Event} {request : Ticket} {outcome : Outcome}
    (runs : event.RunsFor request.uri) (settled : session.outcome? request = some outcome) :
    Moves event request.uri session (session.learn request outcome).2 := by
  rcases session.learn_cases request outcome with same | ⟨rfl, same, cache, present, entry⟩
  · rw [same]
  · rw [same]
    exact .single (.evict (.inr ⟨runs, cache, request, present, entry, settled⟩))

theorem task?_learn (session : Session) (request : Ticket) (outcome : Outcome) (ticket : Ticket) :
    (session.learn request outcome).2.task? ticket = session.task? ticket := by
  rcases session.learn_cases request outcome with same | ⟨_, same, _⟩
  · rw [same]
  · rw [same]
    rfl

private theorem outcome?_askFor (session : Session) (uri : String) (wired : session.Wired) :
    (session.askFor uri).2.outcome? (session.nextTicket uri) = none := by
  unfold outcome?
  rw [request?_askFor, wired.request?_nextTicket uri, Option.none_or, if_pos rfl]
  rfl

/-- The first turn of a task is made of moves for its document. -/
theorem moves_consult (session : Session) (wired : session.Wired) (task : Task) (version : Json)
    (found : session.task? task.ticket = some task) (new : task.stage = .created)
    (live : task.cancelled = false) (sees : session.Sees task version) :
    Moves (.run (.start task.ticket)) task.uri session (session.consult task version) := by
  have runs : (Event.run (.start task.ticket)).RunsFor task.uri := ⟨_, rfl, rfl⟩
  change Moves _ task.uri session
    ((session.lookUp task.uri).2.proceed task .stored version (session.lookUp task.uri).1)
  generalize looked : (session.lookUp task.uri).1 = lookup
  generalize after : (session.lookUp task.uri).2 = later
  have spec := wired.lookUp task.uri
  rw [looked, after] at spec
  cases spec with
  | early absent => exact session.moves_proceed task .stored version _ runs found (by simp)
  | shared cache present silent =>
    exact session.moves_proceed task .stored version _ runs found (by simp)
  | asked cache present asks absent =>
    refine .tail (.single (.ask cache runs present absent))
      (.wait task _ version _ rfl found rfl new live sees
        (Option.map_eq_some_iff.mpr ⟨cache, present, rfl⟩) ?_ (session.outcome?_askFor task.uri wired)
        asks)
    rw [Table.get?_set, if_pos rfl]
    rfl
  | joined cache request present asks entry unsettled =>
    exact .single
      (.wait task request version cache rfl found rfl new live sees present entry unsettled asks)
  | learned request outcome here settled =>
    refine .trans (here ▸ session.moves_learn (here ▸ runs) settled)
      (moves_proceed _ task .stored version _ runs ?_
        (fun other => session.learn_not_waiting request other outcome))
    rw [task?_learn]
    exact found

private theorem moves_turns (session : Session) (wired : session.Wired) {job : Job} {later : Session}
    (turns : session.Turns job later) : Moves (.run job) job.uri session later := by
  have runs : (Event.run job).RunsFor job.uri := ⟨job, rfl, rfl⟩
  cases turns with
  | idle unowed => exact .refl
  | dismiss task found named cancelled =>
    have here : job.uri = task.uri := by rcases named with rfl | rfl <;> rfl
    rw [here] at runs ⊢
    exact session.moves_answer_endTask task .cancelled runs found
  | empty task found =>
    exact session.moves_answer_endTask task _ runs found
  | turn takes =>
    cases takes with
    | first task version found new live sees =>
      exact session.moves_consult wired task version found new live sees
    | later task request subject version outcome found waits live settled =>
      have here : request.uri = task.uri :=
        (wired.waits_asked task (mem_of_task? found) request subject version waits).1
      change Moves _ task.uri session _
      refine .trans (here ▸ session.moves_learn (here ▸ runs) settled)
        (moves_proceed _ task subject version _ runs ?_
          (fun other => session.learn_not_waiting request other outcome))
      rw [task?_learn]
      exact found

private theorem moves_sendRequest (session : Session) {event : Event} (ticket : Ticket)
    (runs : event.RunsFor ticket.uri) :
    Moves event ticket.uri session (session.sendRequest ticket) := by
  unfold sendRequest
  split
  · next unsent =>
    split
    · exact .single (.settle ticket _ runs rfl (.inr ⟨unsent, rfl⟩))
    · exact .single (.sent ticket runs rfl unsent)
  · exact .refl

private theorem moves_deliverReply (session : Session) {event : Event} (ticket : Ticket)
    (runs : event.RunsFor ticket.uri) :
    Moves event ticket.uri session (session.deliverReply ticket) := by
  unfold deliverReply
  split
  · next reply answered => exact .single (.settle ticket reply runs rfl (.inl answered))
  · exact .refl

/-- Everything a job does is a sequence of moves for its document. -/
theorem moves_perform (session : Session) (wired : session.Wired) (job : Job)
    (ended : ∀ ticket, job = .retire ticket → session.task? ticket = none) :
    Moves (.run job) job.uri session (session.perform job) := by
  have runs : (Event.run job).RunsFor job.uri := ⟨job, rfl, rfl⟩
  cases job with
  | start ticket => exact session.moves_turns wired (session.turns_runStart ticket)
  | resume ticket => exact session.moves_turns wired (session.turns_runResume ticket)
  | send ticket => exact session.moves_sendRequest ticket runs
  | deliver ticket => exact session.moves_deliverReply ticket runs
  | retire ticket => exact .single (.retire ticket runs rfl (ended ticket rfl))

/-- Two sessions agree on what tasks read and do not write. -/
structure SameGround (session later : Session) : Prop where
  client : later.client = session.client
  store : later.store = session.store
  rule : later.rule = session.rule
  hooks : later.hooks = session.hooks
  hasPlugins : later.hasPlugins = session.hasPlugins

theorem SameGround.refl (session : Session) : session.SameGround session := ⟨rfl, rfl, rfl, rfl, rfl⟩

theorem SameGround.trans {first second third : Session} (left : first.SameGround second)
    (right : second.SameGround third) : first.SameGround third :=
  ⟨right.client.trans left.client, right.store.trans left.store, right.rule.trans left.rule,
    right.hooks.trans left.hooks, right.hasPlugins.trans left.hasPlugins⟩

theorem sameGround_publish (session : Session) (publication : Publication) :
    session.SameGround (session.publish publication).2 := by
  rw [publish_frame]
  exact ⟨rfl, rfl, rfl, rfl, rfl⟩

theorem sameGround_cancelValidation (session : Session) (uri : String) :
    session.SameGround (session.cancelValidation uri) := by
  rw [cancelValidation_frame]
  exact ⟨rfl, rfl, rfl, rfl, rfl⟩

theorem Wired.publish {session : Session} (wired : session.Wired) (publication : Publication) :
    (session.publish publication).2.Wired := by
  rcases session.publish_cases publication with ⟨_, same⟩ | ⟨_, _, _, _, same⟩ | ⟨_, _, same⟩ <;>
    rw [same]
  · exact wired
  · exact wired.congr rfl rfl rfl rfl rfl rfl
  · exact wired.congr rfl rfl rfl rfl rfl rfl

theorem Move.sameGround {event : Event} {uri : String} {session later : Session}
    (move : Move event uri session later) : session.SameGround later := by
  cases move with
  | push => exact session.sameGround_publish _
  | notice => exact session.sameGround_publish _
  | schedule =>
    have cancelled := session.sameGround_cancelValidation uri
    exact ⟨cancelled.client, cancelled.store, cancelled.rule, cancelled.hooks, cancelled.hasPlugins⟩
  | takeBack => exact session.sameGround_cancelValidation uri
  | cancel => rw [cancelTask_frame]; exact ⟨rfl, rfl, rfl, rfl, rfl⟩
  | finish => rw [endTask_frame]; exact ⟨rfl, rfl, rfl, rfl, rfl⟩
  | settle => rw [settleRequest_frame]; exact ⟨rfl, rfl, rfl, rfl, rfl⟩
  | retire => rw [runRetire_frame]; exact ⟨rfl, rfl, rfl, rfl, rfl⟩
  | tell => exact ⟨rfl, rfl, rfl, rfl, rfl⟩
  | answer => exact ⟨rfl, rfl, rfl, rfl, rfl⟩
  | count => exact ⟨rfl, rfl, rfl, rfl, rfl⟩
  | refresh => exact ⟨rfl, rfl, rfl, rfl, rfl⟩
  | begin => exact ⟨rfl, rfl, rfl, rfl, rfl⟩
  | wait => exact ⟨rfl, rfl, rfl, rfl, rfl⟩
  | ask => exact ⟨rfl, rfl, rfl, rfl, rfl⟩
  | evict => exact ⟨rfl, rfl, rfl, rfl, rfl⟩
  | sent => exact ⟨rfl, rfl, rfl, rfl, rfl⟩
  | receive => exact ⟨rfl, rfl, rfl, rfl, rfl⟩

/-- Any number of moves for any documents. -/
abbrev AnyMoves (event : Event) : Session → Session → Prop :=
  Relation.ReflTransGen fun session later => ∃ uri, Move event uri session later

theorem Moves.any {event : Event} {uri : String} {session later : Session}
    (moves : Moves event uri session later) : AnyMoves event session later :=
  Relation.ReflTransGen.mono (fun _ _ move => ⟨uri, move⟩) _ _ moves

/-- What every move brings about, any number of moves brings about. -/
theorem AnyMoves.lift {event : Event} {session later : Session}
    (moves : AnyMoves event session later) {relation : Session → Session → Prop}
    (refl : ∀ session, relation session session)
    (trans : ∀ {first second third}, relation first second → relation second third →
      relation first third)
    (move : ∀ {uri first second}, Move event uri first second → relation first second) :
    relation session later := by
  induction moves with
  | refl => exact refl session
  | tail _ last step =>
    obtain ⟨_, last⟩ := last
    exact trans step (move last)

/-- What every move keeps, any number of moves keeps. -/
theorem AnyMoves.keep {event : Event} {session later : Session}
    (moves : AnyMoves event session later) {invariant : Session → Prop} (holds : invariant session)
    (move : ∀ {uri first second}, Move event uri first second → invariant first → invariant second) :
    invariant later := by
  induction moves with
  | refl => exact holds
  | tail _ last step =>
    obtain ⟨_, last⟩ := last
    exact move last step

theorem AnyMoves.sameGround {event : Event} {session later : Session}
    (moves : AnyMoves event session later) : session.SameGround later :=
  moves.lift .refl .trans Move.sameGround

/-- A hook that is told of an opened or changed document schedules a push; one that is told of a
closed document takes back its push and sends the notice. A hook that fails is only logged. -/
theorem moves_notify (session : Session) {event : Event} (notice : DocumentEvent) (uri : String)
    (hook : Hook) (listed : hook ∈ session.hooks.of notice)
    (notified : event.notifies notice uri = true)
    (absent : notice = .closed → session.store.get? uri = none) :
    Moves event uri session (notify notice uri session hook) := by
  have calm := Event.calm_of_notifies notified uri
  have called : Moves event uri session (session.callHook notice uri hook).2 := by
    cases hook with
    | validation =>
      cases notice with
      | opened => exact .single (.schedule calm)
      | changed => exact .single (.schedule calm)
      | closed =>
        have closes := Event.eq_of_notifies_closed notified
        refine .tail (.single (.takeBack (.inl closes))) (.notice closes ?_)
        rw [(session.sameGround_cancelValidation uri).store]
        exact absent rfl
    | eviction => exact .single (.evict (.inl (.inr ⟨notice, notified, listed⟩)))
    | external name fault => exact session.moves_emit event uri _ rfl
  unfold notify
  cases outcome : session.callHook notice uri hook with
  | mk failure later =>
    rw [outcome] at called
    cases failure with
    | none => exact called
    | some fault => exact .trans called (later.moves_emit event uri _ rfl)

theorem moves_hooks (session : Session) {event : Event} (notice : DocumentEvent) (uri : String)
    (hooks : List Hook) (listed : ∀ hook ∈ hooks, hook ∈ session.hooks.of notice)
    (notified : event.notifies notice uri = true)
    (absent : notice = .closed → session.store.get? uri = none) :
    Moves event uri session (hooks.foldl (notify notice uri) session) := by
  induction hooks generalizing session with
  | nil => exact .refl
  | cons hook rest step =>
    have first := session.moves_notify notice uri hook (listed hook List.mem_cons_self) notified absent
    have ground := first.any.sameGround
    refine .trans first (step _ ?_ ?_)
    · rw [ground.hooks]
      exact fun other member => listed other (List.mem_cons_of_mem _ member)
    · rw [ground.store]
      exact absent

theorem anyMoves_schedules (session : Session) {event : Event} (uris : List String)
    (calm : ∀ uri, ¬ event.RunsFor uri) :
    AnyMoves event session (uris.foldl Session.schedule session) := by
  induction uris generalizing session with
  | nil => exact .refl
  | cons uri rest step => exact .head ⟨uri, .schedule (calm uri)⟩ (step _)

/-- Numbers that were issued remain so. -/
theorem Move.issued {event : Event} {uri : String} {session later : Session}
    (move : Move event uri session later) (other : String) :
    session.issued other ≤ later.issued other := by
  have same (tickets : later.tickets = session.tickets) : session.issued other ≤ later.issued other := by
    unfold Session.issued
    exact Nat.le_of_eq (by rw [tickets])
  cases move with
  | begin => exact session.issued_le_issue uri other
  | ask => exact session.issued_le_issue uri other
  | schedule =>
    have before : (session.cancelValidation uri).issued other = session.issued other := by
      rw [cancelValidation_frame]
      rfl
    rw [← before]
    exact (session.cancelValidation uri).issued_le_issue uri other
  | push => exact same (by rw [publish_frame])
  | notice => exact same (by rw [publish_frame])
  | takeBack => exact same (by rw [cancelValidation_frame])
  | cancel => exact same (by rw [cancelTask_frame])
  | finish => exact same (by rw [endTask_frame])
  | settle => exact same (by rw [settleRequest_frame]; rfl)
  | retire => exact same (by rw [runRetire_frame])
  | tell => exact same rfl
  | answer => exact same rfl
  | count => exact same rfl
  | refresh => exact same rfl
  | wait => exact same rfl
  | evict => exact same rfl
  | sent => exact same rfl
  | receive => exact same rfl

theorem AnyMoves.issued {event : Event} {session later : Session}
    (moves : AnyMoves event session later) (uri : String) : session.issued uri ≤ later.issued uri := by
  induction moves with
  | refl => exact Nat.le_refl _
  | tail _ last least =>
    obtain ⟨_, last⟩ := last
    exact Nat.le_trans least (last.issued uri)

private theorem Wired.move {event : Event} {uri : String} {session later : Session}
    (wired : session.Wired) (move : Move event uri session later) : later.Wired := by
  cases move with
  | tell => exact wired.congr rfl rfl rfl rfl rfl rfl
  | answer => exact wired.congr rfl rfl rfl rfl rfl rfl
  | count => exact wired.congr rfl rfl rfl rfl rfl rfl
  | refresh => exact wired.congr rfl rfl rfl rfl rfl rfl
  | push => exact wired.publish _
  | notice => exact wired.publish _
  | begin purpose answered => exact wired.startTask uri answered
  | schedule => exact wired.schedule uri
  | takeBack => exact wired.cancelValidation uri
  | cancel task => exact wired.cancelTask task.ticket
  | finish task _ found => exact wired.endTask task found
  | wait task request version cache _ found here _ live _ present entry _ =>
    refine wired.updateTask found rfl rfl (fun _ => live) ?_
    intro awaited subject seen waits
    cases waits
    rw [here]
    exact wired.entries_asked cache uri request present entry
  | ask => exact wired.askFor uri
  | evict => exact wired.evict uri
  | sent ticket => exact (wired.updateRequest ticket .sent).congr rfl rfl rfl rfl rfl rfl
  | settle ticket reply => exact wired.settleRequest ticket reply
  | receive ticket reply => exact (wired.updateRequest ticket _).enqueue (by simp)
  | retire ticket _ _ ended => exact wired.runRetire ended

theorem Wired.moves {event : Event} {session later : Session} (wired : session.Wired)
    (moves : AnyMoves event session later) : later.Wired :=
  moves.keep wired fun move held => held.move move

/-- What every move of a wired session keeps, any number of moves keeps. -/
theorem Wired.keep {event : Event} {session later : Session} (wired : session.Wired)
    (moves : AnyMoves event session later) (invariant : Session → Prop) (holds : invariant session)
    (move : ∀ {uri first second}, first.Wired → Move event uri first second → invariant first →
      invariant second) : invariant later := by
  induction moves with
  | refl => exact holds
  | tail earlier last step =>
    obtain ⟨_, last⟩ := last
    exact move (wired.moves earlier) last step

end Session

end HazeServer
