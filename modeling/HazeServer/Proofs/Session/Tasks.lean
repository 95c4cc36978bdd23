import HazeServer.Proofs.Session.Progress

/-! # What becomes of tasks and requests

Every task after a move was there before it, perhaps not cancelled or not yet waiting, or it is new:
that is its origin. Every task before a move is still there, unless a job for its document ran, a
newer push took its place, its document was closed or its request was cancelled: that is its fate.
A settings request moves from one state to the next, and stays as it is once it is settled. What
holds of all tasks or requests, and of one task along a run, is read off these lists.
-/

namespace HazeServer

namespace Session

/-- Where a task comes from when a move was made. -/
inductive Origin (session : Session) (event : Event) (uri : String) : Task → Prop where
  | kept (task : Task) (member : task ∈ session.tasks) : Origin session event uri task
  | cancelled (held : Task) (member : held ∈ session.tasks) :
      Origin session event uri { held with cancelled := true }
  | waits (held : Task) (request : Ticket) (version : Json) (member : held ∈ session.tasks)
      (here : held.uri = uri) (starts : event = .run (.start held.ticket))
      (new : held.stage = .created) (live : held.cancelled = false) (sees : session.Sees held version)
      (asks : session.asksClient = true)
      (entry : session.cache.bind (·.entries.get? uri) = some request) :
      Origin session event uri { held with stage := .waiting request .stored version }
  | asked (purpose : Purpose) (answered : purpose.requestId?.isSome)
      (asks : event = .ask uri purpose answered) :
      Origin session event uri ⟨session.nextTicket uri, purpose, .created, false⟩
  | scheduled (calm : ¬ event.RunsFor uri) :
      Origin session event uri ⟨session.nextTicket uri, .push, .created, false⟩

/-- There is a push for a document that was not cancelled. -/
def PushPending (session : Session) (uri : String) : Prop :=
  ∃ task ∈ session.tasks, task.uri = uri ∧ task.purpose = .push ∧ task.cancelled = false

/-- What a move makes of a task. -/
inductive Fate (later : Session) (event : Event) (task : Task) : Prop where
  | kept (member : task ∈ later.tasks)
  | ran (runs : event.RunsFor task.uri)
  | superseded (push : task.purpose = .push)
      (reason : later.PushPending task.uri ∨ event = .closed task.uri ∨
        event = .cancelValidation task.uri)
      (after : { task with cancelled := true } ∈ later.tasks)
  | cancelled (id : RequestId) (answers : task.purpose.requestId? = some id)
      (cancels : event = .cancel id) (after : { task with cancelled := true } ∈ later.tasks)

/-- How the state of a settings request can move on. -/
inductive Progresses (session : Session) (event : Event) (ticket : Ticket) : RequestState → Prop where
  | sent (before : session.requestState? ticket = some .unsent) :
      Progresses session event ticket .sent
  | answered (reply : Reply) (before : session.requestState? ticket = some .sent)
      (replies : event = .reply ticket reply) :
      Progresses session event ticket (.answered reply)
  | settled (reply : Reply)
      (due : session.requestState? ticket = some (.answered reply) ∨
        (session.requestState? ticket = some .unsent ∧ reply = .fault (.reported .timeout ""))) :
      Progresses session event ticket (.settled (outcomeOf reply))

/-- What is said when a settings request reaches a state. -/
def fetchEffects (ticket : Ticket) (fault : Fault) : RequestState → List Effect
  | .sent => [.askSettings ticket.uri]
  | .settled .failed => [fetchWarning ticket.uri fault]
  | _ => []

/-- What a move makes of the settings requests, and what it says about them. -/
inductive Requested (session : Session) (event : Event) (later : Session) : Prop where
  | same (requests : later.requests = session.requests) (effects : List Effect)
      (grown : later.outbox = session.outbox ++ effects)
      (apart : ∀ effect ∈ effects, effect.isFetch = false)
  | asked (uri : String) (requests : later.requests = (session.askFor uri).2.requests)
      (silent : later.outbox = session.outbox)
  | moved (ticket : Ticket) (state : RequestState) (progresses : session.Progresses event ticket state)
      (requests : later.requests = (session.updateRequest ticket state).requests) (fault : Fault)
      (grown : later.outbox = session.outbox ++ fetchEffects ticket fault state)

/-- Where a task comes from when an event has happened. -/
inductive Stems (session : Session) (event : Event) (task : Task) : Prop where
  | kept (held : Task) (member : held ∈ session.tasks) (named : task.ticket = held.ticket)
      (same : task.purpose = held.purpose) (stays : task.stage = held.stage)
      (untouched : event.renews held.uri = true → session.store.get? held.uri = none)
  | withdrawn (held : Task) (document : Document) (member : held ∈ session.tasks)
      (named : task.ticket = held.ticket) (same : task.purpose = held.purpose)
      (renewed : event.renews held.uri = true)
      (stored : session.store.get? held.uri = some document)
      (moved : task.stage = held.stage.withdraw document)
  | waits (held : Task) (request : Ticket) (version : Json) (member : held ∈ session.tasks)
      (named : task.ticket = held.ticket) (same : task.purpose = held.purpose)
      (starts : event = .run (.start held.ticket)) (new : held.stage = .created)
      (sees : session.Sees held version) (waits : task.stage = .waiting request .stored version)
  | new (created : task.stage = .created) (calm : ¬ event.RunsFor task.uri)

/-- Two tasks of one ticket are the same. -/
theorem Wired.task_unique {session : Session} (wired : session.Wired) {task other : Task}
    (member : task ∈ session.tasks) (found : other ∈ session.tasks)
    (same : task.ticket = other.ticket) : task = other := by
  have held := wired.task_of_mem member
  rw [same, wired.task_of_mem found] at held
  exact (Option.some.inj held).symm

theorem mem_cancelTask {session : Session} (wired : session.Wired) {ticket : Ticket} {task : Task}
    (member : task ∈ (session.cancelTask ticket).tasks) :
    task ∈ session.tasks ∨ ∃ held ∈ session.tasks, task = { held with cancelled := true } := by
  have found := (wired.cancelTask ticket).task_of_mem member
  rw [task?_cancelTask] at found
  split at found
  · obtain ⟨held, before, rfl⟩ := Option.map_eq_some_iff.mp found
    exact .inr ⟨held, mem_of_task? before, rfl⟩
  · exact .inl (mem_of_task? found)

theorem mem_cancelTask_of_ne {session : Session} (wired : session.Wired) {ticket : Ticket}
    {task : Task} (member : task ∈ session.tasks) (other : task.ticket ≠ ticket) :
    task ∈ (session.cancelTask ticket).tasks := by
  have found : (session.cancelTask ticket).task? task.ticket = some task := by
    rw [task?_cancelTask, if_neg other]
    exact wired.task_of_mem member
  exact mem_of_task? found

theorem mem_cancelValidation {session : Session} (wired : session.Wired) {uri : String} {task : Task}
    (member : task ∈ (session.cancelValidation uri).tasks) :
    task ∈ session.tasks ∨ ∃ held ∈ session.tasks, task = { held with cancelled := true } := by
  rcases session.cancelValidation_cases uri with ⟨_, same⟩ | ⟨ticket, _, same⟩ <;> rw [same] at member
  · exact .inl member
  · exact mem_cancelTask wired member

/-- Taking back the push for a document leaves alone what is no push and what is about another
document. -/
theorem mem_cancelValidation_of_ne {session : Session} (wired : session.Wired) {uri : String}
    {task : Task} (member : task ∈ session.tasks) (other : task.purpose = .push → task.uri ≠ uri) :
    task ∈ (session.cancelValidation uri).tasks := by
  rcases session.cancelValidation_cases uri with ⟨_, same⟩ | ⟨ticket, entry, same⟩ <;> rw [same]
  · exact member
  · apply mem_cancelTask_of_ne wired member
    rintro rfl
    have push := (wired.entered_pushes uri _ entry).2 task member rfl
    exact other push (wired.validating_named uri _ entry)

/-- The push under way for a document is marked as cancelled when it is taken back. -/
theorem marked_cancelValidation {session : Session} (wired : session.Wired) {task : Task}
    (member : task ∈ session.tasks) (push : task.purpose = .push) :
    { task with cancelled := true } ∈ (session.cancelValidation task.uri).tasks := by
  cases live : task.cancelled with
  | true =>
    rcases session.cancelValidation_cases task.uri with ⟨_, same⟩ | ⟨ticket, entry, same⟩ <;> rw [same]
    · rw [← live]
      exact member
    · by_cases own : task.ticket = ticket
      · have found : (session.cancelTask ticket).task? task.ticket =
            some { task with cancelled := true } := by
          rw [task?_cancelTask, if_pos own, wired.task_of_mem member]
          rfl
        exact mem_of_task? found
      · rw [← live]
        exact mem_cancelTask_of_ne wired member own
  | false =>
    have entered := wired.pushes_entered task member push live
    rcases session.cancelValidation_cases task.uri with ⟨absent, _⟩ | ⟨ticket, entry, same⟩
    · rw [absent] at entered
      cases entered
    · obtain rfl := Option.some.inj (entered.symm.trans entry)
      have found : (session.cancelTask task.ticket).task? task.ticket =
          some { task with cancelled := true } := by
        rw [task?_cancelTask, if_pos rfl, wired.task_of_mem member]
        rfl
      rw [same]
      exact mem_of_task? found

theorem tasks_settleRequest (session : Session) (ticket : Ticket) (reply : Reply) :
    (session.settleRequest ticket reply).tasks = session.tasks := by
  rw [session.settleRequest_frame ticket reply]
  rfl

theorem tasks_runRetire (session : Session) (ticket : Ticket) :
    (session.runRetire ticket).tasks = session.tasks := by
  rw [session.runRetire_frame ticket]

theorem requests_cancelValidation (session : Session) (uri : String) :
    (session.cancelValidation uri).requests = session.requests := by
  rw [cancelValidation_frame]

section Moves

variable {session later : Session} {event : Event} {uri : String}

theorem Move.origin (move : Move event uri session later) (wired : session.Wired) {task : Task}
    (member : task ∈ later.tasks) : session.Origin event uri task := by
  cases move with
  | tell => exact .kept task member
  | answer => exact .kept task member
  | count => exact .kept task member
  | refresh => exact .kept task member
  | evict => exact .kept task member
  | ask => exact .kept task member
  | sent => exact .kept task member
  | receive => exact .kept task member
  | push => exact .kept task (session.tasks_publish _ ▸ member)
  | notice => exact .kept task (session.tasks_publish _ ▸ member)
  | settle ticket reply => exact .kept task (session.tasks_settleRequest ticket reply ▸ member)
  | retire ticket => exact .kept task (session.tasks_runRetire ticket ▸ member)
  | begin purpose answered asks =>
    rcases List.mem_append.mp member with before | new
    · exact .kept task before
    · obtain rfl := List.mem_singleton.mp new
      exact .asked purpose answered asks
  | schedule calm =>
    rcases List.mem_append.mp member with before | new
    · rcases mem_cancelValidation wired before with held | ⟨held, old, rfl⟩
      · exact .kept task held
      · exact .cancelled held old
    · have named : (session.cancelValidation uri).nextTicket uri = session.nextTicket uri := by
        rw [cancelValidation_frame]
        rfl
      have same : task = ⟨session.nextTicket uri, .push, .created, false⟩ := by
        rw [List.mem_singleton.mp new, ← named]
        rfl
      rw [same]
      exact .scheduled calm
  | takeBack =>
    rcases mem_cancelValidation wired member with held | ⟨held, old, rfl⟩
    · exact .kept task held
    · exact .cancelled held old
  | cancel =>
    rcases mem_cancelTask wired member with held | ⟨held, old, rfl⟩
    · exact .kept task held
    · exact .cancelled held old
  | finish ended =>
    rw [tasks_endTask] at member
    exact .kept task (List.mem_filter.mp member).1
  | wait held request version cache starts found here new live sees present entry _ asks =>
    rcases mem_updateTask member with ⟨rfl, _⟩ | ⟨before, _⟩
    · refine .waits held request version (mem_of_task? found) here starts new live sees asks ?_
      rw [present]
      exact entry
    · exact .kept task before

/-- A push that was scheduled is pending. -/
theorem pushPending_schedule (session : Session) (uri : String) :
    (session.schedule uri).PushPending uri :=
  ⟨_, List.mem_append_right _ (List.mem_singleton.mpr rfl), rfl, rfl, rfl⟩

theorem Move.fate (move : Move event uri session later) (wired : session.Wired) {task : Task}
    (member : task ∈ session.tasks) : later.Fate event task := by
  cases move with
  | tell => exact .kept member
  | answer => exact .kept member
  | count => exact .kept member
  | refresh => exact .kept member
  | evict => exact .kept member
  | ask => exact .kept member
  | sent => exact .kept member
  | receive => exact .kept member
  | push => exact .kept (session.tasks_publish _ ▸ member)
  | notice => exact .kept (session.tasks_publish _ ▸ member)
  | settle ticket reply => exact .kept (session.tasks_settleRequest ticket reply ▸ member)
  | retire ticket => exact .kept (session.tasks_runRetire ticket ▸ member)
  | begin => exact .kept (List.mem_append_left _ member)
  | schedule =>
    by_cases own : task.purpose = .push ∧ task.uri = uri
    · obtain ⟨push, rfl⟩ := own
      exact .superseded push (.inl (session.pushPending_schedule task.uri))
        (List.mem_append_left _ (marked_cancelValidation wired member push))
    · refine .kept (List.mem_append_left _ (mem_cancelValidation_of_ne wired member ?_))
      exact fun push here => own ⟨push, here⟩
  | takeBack closes =>
    by_cases own : task.purpose = .push ∧ task.uri = uri
    · obtain ⟨push, rfl⟩ := own
      exact .superseded push (.inr closes) (marked_cancelValidation wired member push)
    · exact .kept (mem_cancelValidation_of_ne wired member fun push here => own ⟨push, here⟩)
  | cancel held id found here answers cancels =>
    by_cases same : task.ticket = held.ticket
    · obtain rfl := wired.task_unique member found same
      have after : (session.cancelTask task.ticket).task? task.ticket =
          some { task with cancelled := true } := by
        rw [task?_cancelTask, if_pos rfl, wired.task_of_mem member]
        rfl
      exact .cancelled id answers cancels (mem_of_task? after)
    · exact .kept (mem_cancelTask_of_ne wired member same)
  | finish ended runs found here =>
    by_cases same : task.ticket = ended.ticket
    · obtain rfl := wired.task_unique member (mem_of_task? found) same
      exact .ran (here ▸ runs)
    · refine .kept ?_
      rw [tasks_endTask]
      exact List.mem_filter.mpr ⟨member, by simpa using same⟩
  | wait held request version cache starts found =>
    by_cases same : task.ticket = held.ticket
    · obtain rfl := wired.task_unique member (mem_of_task? found) same
      exact .ran ⟨_, starts, rfl⟩
    · exact .kept (List.mem_map.mpr ⟨task, member, if_neg same⟩)

theorem requestState?_of_requests (same : later.requests = session.requests) (ticket : Ticket) :
    later.requestState? ticket = session.requestState? ticket := by
  unfold requestState? request?
  rw [same]

theorem outcome?_of_requests (same : later.requests = session.requests) (ticket : Ticket) :
    later.outcome? ticket = session.outcome? ticket := by
  unfold outcome? request?
  rw [same]

theorem requestState?_of_outstanding (wired : session.Wired) {ticket : Ticket}
    (outstanding : ticket ∈ session.outstanding) : session.requestState? ticket = some .sent := by
  obtain ⟨request, member, rfl⟩ := List.mem_map.mp outstanding
  obtain ⟨listed, sent⟩ := List.mem_filter.mp member
  unfold requestState?
  rw [wired.request_of_mem listed]
  cases state : request.state <;> simp_all [Request.isOutstanding]

theorem outbox_settleRequest (session : Session) (ticket : Ticket) (reply : Reply) :
    ∃ fault, (session.settleRequest ticket reply).outbox =
      session.outbox ++ fetchEffects ticket fault (.settled (outcomeOf reply)) := by
  unfold settleRequest
  cases reply with
  | fault fault => exact ⟨fault, rfl⟩
  | cancelled => exact ⟨.reported .timeout "", by simp [outcomeOf, fetchEffects, updateRequest]⟩
  | result value =>
    refine ⟨.reported .timeout "", ?_⟩
    simp only [outcomeOf]
    split <;> simp [fetchEffects, updateRequest]

theorem plain_fetchEffects (ticket : Ticket) (fault : Fault) (state : RequestState) :
    ∀ effect ∈ fetchEffects ticket fault state, effect.isPlain = true := by
  unfold fetchEffects
  split <;> simp [fetchWarning, Effect.isPlain]

theorem Requested.of_silent (requests : later.requests = session.requests)
    (silent : later.outbox = session.outbox) : session.Requested event later :=
  .same requests [] (by rw [silent, List.append_nil]) (by simp)

private theorem requested_publish (session : Session) (event : Event) (publication : Publication) :
    session.Requested event (session.publish publication).2 := by
  rcases session.publish_cases publication with ⟨_, same⟩ | ⟨_, _, _, _, same⟩ | ⟨_, _, same⟩ <;>
    rw [same]
  · exact .of_silent rfl rfl
  · exact .of_silent rfl rfl
  · exact .same rfl [.publish publication] rfl (by simp [Effect.isFetch, Effect.isFetchWarning])

theorem Move.requested (move : Move event uri session later) (wired : session.Wired) :
    session.Requested event later := by
  have fault : Fault := .reported .timeout ""
  cases move with
  | ask => exact .asked uri rfl rfl
  | sent ticket runs here unsent => exact .moved ticket .sent (.sent unsent) rfl fault rfl
  | settle ticket reply runs here due =>
    obtain ⟨fault, grown⟩ := session.outbox_settleRequest ticket reply
    refine .moved ticket _ (.settled reply due) ?_ fault grown
    rw [settleRequest_frame]
  | receive ticket reply here replies outstanding =>
    have before := requestState?_of_outstanding wired outstanding
    refine .moved ticket _ (.answered reply before replies) rfl fault ?_
    exact (List.append_nil _).symm
  | tell effects told => exact .same rfl effects rfl fun effect member => (told effect member).unfetched
  | answer id response =>
    exact .same rfl [.respond uri id response] rfl (by simp [Effect.isFetch, Effect.isFetchWarning])
  | push => exact session.requested_publish event _
  | notice => exact session.requested_publish event _
  | schedule =>
    refine .of_silent (session.requests_cancelValidation uri) ?_
    change (session.cancelValidation uri).outbox = session.outbox
    rw [cancelValidation_frame]
  | takeBack => rw [cancelValidation_frame]; exact .of_silent rfl rfl
  | cancel => rw [cancelTask_frame]; exact .of_silent rfl rfl
  | finish => rw [endTask_frame]; exact .of_silent rfl rfl
  | retire => rw [runRetire_frame]; exact .of_silent rfl rfl
  | count => exact .of_silent rfl rfl
  | refresh => exact .of_silent rfl rfl
  | begin => exact .of_silent rfl rfl
  | wait => exact .of_silent rfl rfl
  | evict => exact .of_silent rfl rfl

theorem Change.requests (change : session.Change event later) :
    later.requests = session.requests := by
  cases change.rearranges <;> rfl

theorem Change.tickets (change : session.Change event later) : later.tickets = session.tickets := by
  cases change.rearranges <;> rfl

theorem Wired.issued_step (wired : session.Wired) (event : Event) (uri : String) :
    session.issued uri ≤ (session.step event).issued uri := by
  obtain ⟨middle, change, moves⟩ := wired.change_step event
  have same : middle.issued uri = session.issued uri := by
    unfold issued
    rw [change.tickets]
  rw [← same]
  exact moves.issued uri

/-- A change of the store lets the tasks about a withdrawn document keep it; no other change touches
a task. -/
theorem Change.task (change : session.Change event later) {task : Task}
    (member : task ∈ later.tasks) :
    (task ∈ session.tasks ∧
        (event.renews task.uri = true → session.store.get? task.uri = none)) ∨
      ∃ document, ∃ held ∈ session.tasks, event.renews held.uri = true ∧
        session.store.get? held.uri = some document ∧
        task = { held with stage := held.stage.withdraw document } := by
  have kept (calm : ∀ uri, event.renews uri = false) (before : task ∈ session.tasks) :
      task ∈ session.tasks ∧
        (event.renews task.uri = true → session.store.get? task.uri = none) := by
    refine ⟨before, fun renewed => ?_⟩
    rw [calm] at renewed
    cases renewed
  have withdrawn {uri : String} (renews : ∀ other, event.renews other = decide (other = uri))
      (after : task ∈ (session.withdraw uri).tasks) :
      (task ∈ session.tasks ∧
          (event.renews task.uri = true → session.store.get? task.uri = none)) ∨
        ∃ document, ∃ held ∈ session.tasks, event.renews held.uri = true ∧
          session.store.get? held.uri = some document ∧
          task = { held with stage := held.stage.withdraw document } := by
    simp only [renews, decide_eq_true_eq]
    rw [withdraw_eq] at after
    cases stored : session.store.get? uri with
    | none =>
      simp only [stored] at after
      refine .inl ⟨after, fun here => ?_⟩
      rw [here, stored]
    | some document =>
      simp only [stored] at after
      obtain ⟨held, before, rfl⟩ := List.mem_map.mp after
      unfold withdrawnTask
      split
      · next here => exact .inr ⟨document, held, before, here, here ▸ stored, rfl⟩
      · next other => exact .inl ⟨before, fun here => absurd here other⟩
  cases change with
  | opened uri text version language wellFormed =>
    refine withdrawn (fun other => ?_) member
    simp [Event.renews, Event.opens, Event.closes, wellFormed, Except.isOk, Except.toBool, eq_comm]
  | closed uri =>
    refine withdrawn (fun other => ?_) member
    simp [Event.renews, Event.opens, Event.closes, eq_comm]
  | edited _ uri version edits document named =>
    rcases named with ⟨_, rfl, _⟩ | rfl <;> exact .inl (kept (fun _ => rfl) member)
  | still _ calm => exact .inl (kept calm member)
  | greeted => exact .inl (kept (fun _ => rfl) member)
  | cleared => exact .inl (kept (fun _ => rfl) member)
  | shared => exact .inl (kept (fun _ => rfl) member)
  | ruled => exact .inl (kept (fun _ => rfl) member)
  | hooked => exact .inl (kept (fun _ => rfl) member)
  | faulty => exact .inl (kept (fun _ => rfl) member)
  | ran => exact .inl (kept (fun _ => rfl) member)

private theorem Sees.of_ground {before : Session} {task : Task} {version : Json}
    (ground : before.SameGround session) (sees : session.Sees task version) :
    before.Sees task version := by
  unfold Sees lacksPlugins at *
  rw [← ground.store, ← ground.hasPlugins]
  exact sees

/-- A job changes no record and nothing else that tasks only read. -/
theorem Change.ground_run (change : session.Change event later) {job : Job}
    (runs : event = .run job) : session.SameGround later := by
  cases change with
  | ran => exact ⟨rfl, rfl, rfl, rfl, rfl⟩
  | still => exact .refl session
  | edited _ _ _ _ _ named => rcases named with ⟨_, rfl, _⟩ | rfl <;> cases runs
  | greeted => cases runs
  | opened => cases runs
  | closed => cases runs
  | cleared => cases runs
  | shared => cases runs
  | ruled => cases runs
  | hooked => cases runs
  | faulty => cases runs

private theorem Change.stems (change : session.Change event later) {task : Task}
    (member : task ∈ later.tasks) : session.Stems event task := by
  rcases change.task member with
    ⟨before, untouched⟩ | ⟨document, held, before, renewed, stored, rfl⟩
  · exact .kept task before rfl rfl rfl untouched
  · exact .withdrawn held document before rfl rfl renewed stored rfl

private theorem Stems.of_same {task other : Task} (stems : session.Stems event other)
    (ticket : task.ticket = other.ticket) (purpose : task.purpose = other.purpose)
    (stage : task.stage = other.stage) : session.Stems event task := by
  cases stems with
  | kept held member named same stays untouched =>
    exact .kept held member (ticket.trans named) (purpose.trans same) (stage.trans stays) untouched
  | withdrawn held document member named same renewed stored moved =>
    exact .withdrawn held document member (ticket.trans named) (purpose.trans same) renewed stored
      (stage.trans moved)
  | waits held request version member named same starts new sees waits =>
    exact .waits held request version member (ticket.trans named) (purpose.trans same) starts new sees
      (stage.trans waits)
  | new created calm =>
    refine .new (stage.trans created) ?_
    rw [Task.uri, ticket]
    exact calm

/-- A task that begins to wait was there before the job that gave it its turn. -/
theorem Stems.wait {task : Task} (stems : session.Stems event task)
    (starts : event = .run (.start task.ticket)) (new : task.stage = .created) {request : Ticket}
    {version : Json} (sees : session.Sees task version) :
    session.Stems event { task with stage := .waiting request .stored version } := by
  cases stems with
  | kept held member named same stays untouched =>
    refine .waits held request version member named same (named ▸ starts) (stays ▸ new) ?_ rfl
    unfold Sees Task.uri at *
    rw [← same, ← named]
    exact sees
  | withdrawn held document member named same renewed =>
    rw [starts] at renewed
    cases renewed
  | waits _ _ _ _ _ _ _ _ _ waits =>
    rw [new] at waits
    cases waits
  | new created calm => exact absurd ⟨_, starts, rfl⟩ calm

private theorem Move.stems {before : Session} (move : Move event uri session later) (wired : session.Wired)
    (ground : ∀ job, event = .run job → before.SameGround session)
    (stems : ∀ task ∈ session.tasks, before.Stems event task) {task : Task}
    (member : task ∈ later.tasks) : before.Stems event task := by
  have origin := move.origin wired member
  cases origin with
  | kept _ held => exact stems task held
  | cancelled held old => exact (stems held old).of_same rfl rfl rfl
  | waits held request version old here starts new live sees =>
    exact (stems held old).wait starts new (sees.of_ground (ground _ starts))
  | asked purpose answered asks =>
    refine .new rfl ?_
    rintro ⟨job, runs, _⟩
    rw [asks] at runs
    cases runs
  | scheduled calm => exact .new rfl calm

/-- The tasks after an event stem from those before it. -/
theorem Wired.stems (wired : session.Wired) {task : Task}
    (member : task ∈ (session.step event).tasks) : session.Stems event task := by
  obtain ⟨middle, change, moves⟩ := wired.change_step event
  have kept := (wired.change change).keep moves
    (fun later => (∀ job, event = .run job → session.SameGround later) ∧
      ∀ task ∈ later.tasks, session.Stems event task)
    ⟨fun job runs => change.ground_run runs, fun task member => change.stems member⟩
    fun wired move held => ⟨fun job runs => (held.1 job runs).trans move.sameGround,
      fun task member => move.stems wired held.1 held.2 member⟩
  exact kept.2 task member

/-- Tasks that are no pushes answer requests of a run. -/
def OnlyAnswers (session : Session) (events : List Event) : Prop :=
  ∀ task ∈ session.tasks, task.purpose = .push ∨ ∃ answered, .ask task.uri task.purpose answered ∈ events

theorem OnlyAnswers.step {events : List Event} (answers : session.OnlyAnswers events)
    (wired : session.Wired) (listed : event ∈ events) : (session.step event).OnlyAnswers events := by
  obtain ⟨middle, change, moves⟩ := wired.change_step event
  refine (wired.change change).keep moves (OnlyAnswers · events) ?_ fun {_ _ _} wired move held => ?_
  · intro task member
    rcases change.task member with ⟨before, _⟩ | ⟨_, held, before, _, _, rfl⟩
    · exact answers task before
    · exact answers held before
  · intro task member
    cases move.origin wired member with
    | kept _ before => exact held task before
    | cancelled task before => exact held task before
    | waits task _ _ before => exact held task before
    | asked purpose answered asks => exact .inr ⟨answered, asks ▸ listed⟩
    | scheduled => exact .inl rfl

theorem withdraw_eq_waiting {stage : Stage} {document : Document} {request : Ticket}
    {subject : Subject} {version : Json}
    (waits : stage.withdraw document = .waiting request subject version) :
    ∃ about, stage = .waiting request about version := by
  cases stage with
  | created => cases waits
  | waiting awaited about seen =>
    cases waits
    exact ⟨about, rfl⟩

theorem waitsFor_withdraw (stage : Stage) (task : Task) (document : Document) (request : Ticket) :
    ({ task with stage := stage.withdraw document } : Task).waitsFor request =
      ({ task with stage } : Task).waitsFor request := by
  cases stage <;> rfl

/-- Every task outlives a change, and waits for what it waited for. -/
theorem Change.task_kept (change : session.Change event later) {task : Task}
    (member : task ∈ session.tasks) :
    ∃ held ∈ later.tasks, held.ticket = task.ticket ∧ held.purpose = task.purpose ∧
      held.cancelled = task.cancelled ∧ ∀ request, held.waitsFor request = task.waitsFor request := by
  have withdrawn (uri : String) : ∃ held ∈ (session.withdraw uri).tasks,
      held.ticket = task.ticket ∧ held.purpose = task.purpose ∧ held.cancelled = task.cancelled ∧
        ∀ request, held.waitsFor request = task.waitsFor request := by
    rw [withdraw_eq]
    cases session.store.get? uri with
    | none => exact ⟨task, member, rfl, rfl, rfl, fun _ => rfl⟩
    | some document =>
      refine ⟨withdrawnTask uri document task, List.mem_map_of_mem member, by simp, by simp, by simp,
        fun request => ?_⟩
      unfold withdrawnTask
      split
      · exact waitsFor_withdraw task.stage task document request
      · rfl
  have same : ∃ held ∈ session.tasks, held.ticket = task.ticket ∧ held.purpose = task.purpose ∧
      held.cancelled = task.cancelled ∧ ∀ request, held.waitsFor request = task.waitsFor request :=
    ⟨task, member, rfl, rfl, rfl, fun _ => rfl⟩
  cases change with
  | opened uri => exact withdrawn uri
  | closed uri => exact withdrawn uri
  | still => exact same
  | greeted => exact same
  | edited => exact same
  | cleared => exact same
  | shared => exact same
  | ruled => exact same
  | hooked => exact same
  | faulty => exact same
  | ran => exact same

end Moves

/-- What the client has said that explains the state of a request. -/
def Explained (events : List Event) (ticket : Ticket) : RequestState → Prop
  | .unsent => True
  | .sent => True
  | .answered reply => .reply ticket reply ∈ events
  | .settled outcome =>
      outcome = .failed ∨ ∃ reply, .reply ticket reply ∈ events ∧ outcome = outcomeOf reply

private theorem explained_of_progress {events : List Event} {session : Session} {event : Event}
    {ticket : Ticket} {state : RequestState} (progresses : session.Progresses event ticket state)
    (member : event ∈ events)
    (held : ∀ state, session.requestState? ticket = some state → Explained events ticket state) :
    Explained events ticket state := by
  cases progresses with
  | sent => trivial
  | answered reply _ replies =>
    subst replies
    exact member
  | settled reply due =>
    rcases due with answered | ⟨_, rfl⟩
    · exact .inr ⟨reply, held _ answered, rfl⟩
    · exact .inl rfl

private theorem Requested.explained {events : List Event} {session later : Session} {event : Event}
    {ticket : Ticket} (requested : session.Requested event later) (member : event ∈ events)
    (held : ∀ state, session.requestState? ticket = some state → Explained events ticket state)
    {state : RequestState} (found : later.requestState? ticket = some state) :
    Explained events ticket state := by
  cases requested with
  | same requests => exact held state (requestState?_of_requests requests ticket ▸ found)
  | asked uri requests =>
    rw [requestState?_of_requests requests, requestState?_askFor, Option.or_eq_some_iff] at found
    rcases found with before | ⟨_, new⟩
    · exact held state before
    · split at new <;> cases new
      trivial
  | moved other next progresses requests =>
    rw [requestState?_of_requests requests, requestState?_updateRequest] at found
    split at found
    · next same =>
      subst same
      obtain ⟨_, _, rfl⟩ := Option.map_eq_some_iff.mp found
      exact explained_of_progress progresses member held
    · exact held state found

/-- The replies to settings requests are those that the client gave; a request without one failed. -/
theorem explained_runAll {start : Session} (wired : start.Wired) (blank : start.requests = [])
    (events : List Event) {ticket : Ticket} {state : RequestState}
    (held : (start.runAll events).requestState? ticket = some state) :
    Explained events ticket state := by
  refine runAll_induction wired (fun session => ∀ state, session.requestState? ticket = some state →
    Explained events ticket state) ?_ events ?_ state held
  · intro state held
    simp [requestState?, request?, blank] at held
  · intro session event member wired before
    obtain ⟨middle, change, moves⟩ := wired.change_step event
    have unchanged : ∀ state, middle.requestState? ticket = some state →
        Explained events ticket state := by
      intro state held
      rw [requestState?_of_requests change.requests] at held
      exact before state held
    exact (wired.change change).keep moves _ unchanged fun wired move held state after =>
      (move.requested wired).explained member held after

/-- A request that is settled does not move on. -/
theorem Progresses.unsettled {session : Session} {event : Event} {ticket : Ticket}
    {state : RequestState} {outcome : Outcome} (progresses : session.Progresses event ticket state) :
    session.requestState? ticket ≠ some (.settled outcome) := by
  intro settled
  cases progresses with
  | sent before => cases settled.symm.trans before
  | answered _ before => cases settled.symm.trans before
  | settled reply due => rcases due with before | ⟨before, _⟩ <;> cases settled.symm.trans before

/-- What a settings request led to does not change. -/
theorem Requested.outcome {session later : Session} {event : Event} {ticket : Ticket}
    {outcome : Outcome} (requested : session.Requested event later)
    (settled : session.outcome? ticket = some outcome) : later.outcome? ticket = some outcome := by
  rw [outcome?_eq_some] at settled ⊢
  cases requested with
  | same requests => rw [requestState?_of_requests requests, settled]
  | asked uri requests =>
    rw [requestState?_of_requests requests, requestState?_askFor, settled, Option.some_or]
  | moved other next progresses requests =>
    rw [requestState?_of_requests requests, requestState?_updateRequest, if_neg, settled]
    rintro rfl
    exact progresses.unsettled settled

theorem Wired.outcome_step {session : Session} {ticket : Ticket} {outcome : Outcome}
    (wired : session.Wired) (event : Event) (settled : session.outcome? ticket = some outcome) :
    (session.step event).outcome? ticket = some outcome := by
  obtain ⟨middle, change, moves⟩ := wired.change_step event
  have before : middle.outcome? ticket = some outcome := by
    rw [outcome?_eq_some, requestState?_of_requests change.requests]
    exact outcome?_eq_some.mp settled
  exact (wired.change change).keep moves _ before fun wired move held =>
    (move.requested wired).outcome held

theorem Wired.outcome_runAll {session : Session} {ticket : Ticket} {outcome : Outcome}
    (wired : session.Wired) (events : List Event) (settled : session.outcome? ticket = some outcome) :
    (session.runAll events).outcome? ticket = some outcome :=
  runAll_induction wired (fun later => later.outcome? ticket = some outcome) settled events
    fun _ event _ wired held => wired.outcome_step event held

theorem outcomeOf_eq_cancelled {reply : Reply} (outcome : outcomeOf reply = .cancelled) :
    reply = .cancelled := by
  cases reply with
  | cancelled => rfl
  | fault fault => cases outcome
  | result value =>
    simp only [outcomeOf] at outcome
    split at outcome <;> cases outcome

theorem outcomeOf_eq_fault {reply : Reply} {fault : Fault} (outcome : outcomeOf reply = .fault fault) :
    ∃ value, reply = .result value ∧ Settings.ofReply value = .error fault := by
  cases reply with
  | cancelled => cases outcome
  | fault fault => cases outcome
  | result value =>
    refine ⟨value, rfl, ?_⟩
    simp only [outcomeOf] at outcome
    split at outcome
    · cases outcome
    · next failed =>
      cases outcome
      exact failed

end Session

end HazeServer
