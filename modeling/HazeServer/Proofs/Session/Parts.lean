import HazeServer.Proofs.Session.Bystanders
import HazeServer.Proofs.Session.Upkeep
import HazeServer.Proofs.Table

/-! # The part of a session that is about one document

Documents share the store, the cache, the lists of tasks, requests and jobs, and the transport.
`Session.only` takes out of these what is about one document. A move for another document leaves that
part alone, and whatever is done for the document itself depends on that part only.
-/

namespace HazeServer

/-- Whether an effect is meant for one document: it publishes its diagnostics, asks for its settings or
answers a request about it. -/
def Effect.isFor (uri : String) : Effect → Bool
  | .publish publication => publication.uri = uri
  | .askSettings named => named = uri
  | .respond named _ _ => named = uri
  | _ => false

private theorem Event.Tells.not_isFor {event : Event} {effect : Effect} (told : event.Tells effect)
    (uri : String) :
    effect.isFor uri = false := by
  cases effect with
  | publish => exact told.elim
  | respond => exact told.elim
  | askSettings => cases told
  | _ => rfl

/-- The part of a store that is about one document. -/
def Store.only (store : Store) (uri : String) : Store :=
  { store with documents := store.documents.only uri }

/-- The part of a cache that is about one document. -/
def Cache.only (cache : Cache) (uri : String) : Cache :=
  { cache with entries := cache.entries.only uri }

namespace Session

/-- The part of a session that is about one document. Counts that no document reads are left out. -/
def only (session : Session) (uri : String) : Session :=
  { session with
    store := session.store.only uri
    cache := session.cache.map (·.only uri)
    requests := session.requests.filter (·.ticket.uri = uri)
    tasks := session.tasks.filter (·.uri = uri)
    ready := session.ready.filter (·.uri = uri)
    validating := session.validating.only uri
    taken := 0
    refreshes := 0
    tickets := session.tickets.only uri
    outbox := session.outbox.filter (·.isFor uri) }

section Reading

variable (session : Session) (uri : String)

@[simp] theorem only_only : (session.only uri).only uri = session.only uri := by
  have cache : (session.cache.map (·.only uri)).map (Cache.only · uri) =
      session.cache.map (·.only uri) := by
    cases session.cache <;> simp [Cache.only]
  simp [only, Store.only, cache]

@[simp] theorem get?_only : (session.only uri).store.get? uri = session.store.get? uri :=
  session.store.documents.get?_only uri

private theorem issued_only : (session.only uri).issued uri = session.issued uri :=
  congrArg (·.getD 0) (session.tickets.get?_only uri)

@[simp] theorem nextTicket_only : (session.only uri).nextTicket uri = session.nextTicket uri :=
  congrArg (Ticket.mk uri) (session.issued_only uri)

/-- Among items of one document each is found as among all of them. -/
theorem find_filter_keyed {α : Type} (key : α → Ticket) (items : List α) {ticket : Ticket}
    (here : ticket.uri = uri) :
    (items.filter fun item => (key item).uri = uri).find? (key · == ticket) =
      items.find? (key · == ticket) := by
  rw [List.find?_filter]
  apply List.find?_congr
  intro item _
  by_cases same : key item = ticket
  · simp [same, here]
  · simp [same]

variable {uri}

theorem task?_only {ticket : Ticket} (here : ticket.uri = uri) :
    (session.only uri).task? ticket = session.task? ticket :=
  find_filter_keyed uri Task.ticket session.tasks here

private theorem request?_only {ticket : Ticket} (here : ticket.uri = uri) :
    (session.only uri).request? ticket = session.request? ticket :=
  find_filter_keyed uri Request.ticket session.requests here

private theorem mem_ready_only {job : Job} (here : job.uri = uri) :
    job ∈ (session.only uri).ready ↔ job ∈ session.ready := by
  simp [only, here]

end Reading

section Writing

variable (session : Session) (uri : String)

theorem only_emitAll (effects : List Effect) :
    (session.emitAll effects).only uri =
      (session.only uri).emitAll (effects.filter (·.isFor uri)) := by
  simp [only, emitAll]

theorem only_enqueue {job : Job} (here : job.uri = uri) :
    (session.enqueue job).only uri = (session.only uri).enqueue job := by
  simp [only, enqueue, here]

theorem filter_map_own (change : Task → Task) (keeps : ∀ task, (change task).ticket = task.ticket)
    (tasks : List Task) :
    (tasks.map change).filter (·.uri = uri) = (tasks.filter (·.uri = uri)).map change :=
  filter_map_tasks (fun ticket => ticket.uri = uri) change keeps tasks

theorem only_updateTask (task : Task) :
    (session.updateTask task).only uri = (session.only uri).updateTask task := by
  simp only [only, updateTask, filter_map_own uri _ (updatedTask_ticket task)]

theorem only_withdraw : (session.withdraw uri).only uri = (session.only uri).withdraw uri := by
  rw [withdraw_eq, withdraw_eq, get?_only]
  cases session.store.get? uri with
  | none => rfl
  | some document =>
    simp only [only, filter_map_own uri _ (withdrawnTask_ticket uri document)]

theorem only_startTask (purpose : Purpose) :
    (session.startTask uri purpose).2.only uri = ((session.only uri).startTask uri purpose).2 := by
  change (enqueue { (session.issue uri).2 with
    tasks := session.tasks ++ [Task.mk (session.nextTicket uri) purpose .created false] }
      (.start (session.nextTicket uri))).only uri =
    enqueue { ((session.only uri).issue uri).2 with
      tasks := (session.only uri).tasks ++
        [Task.mk ((session.only uri).nextTicket uri) purpose .created false] }
      (.start ((session.only uri).nextTicket uri))
  rw [nextTicket_only, only_enqueue _ uri rfl]
  congr 1
  simp [only, issue, List.filter_append, Table.only_set, Task.uri, nextTicket]

theorem only_updateEntries (update change : Table Ticket → Table Ticket)
    (same : ∀ entries : Table Ticket, (update entries).only uri = change (entries.only uri)) :
    (session.updateEntries update).only uri = (session.only uri).updateEntries change := by
  have cache : (session.updateEntries update).cache.map (Cache.only · uri) =
      ((session.only uri).updateEntries change).cache := by
    unfold updateEntries only
    cases session.cache with
    | none => rfl
    | some cache => simp [Cache.only, same]
  unfold only
  rw [cache]
  rfl

theorem only_evict : (session.evict uri).only uri = (session.only uri).evict uri :=
  session.only_updateEntries uri _ _ fun entries => entries.only_erase uri uri

private theorem only_askFor : (session.askFor uri).2.only uri = ((session.only uri).askFor uri).2 := by
  have requests : ({ (session.issue uri).2 with
      requests := session.requests ++ [⟨session.nextTicket uri, .unsent⟩] } : Session).only uri =
      { ((session.only uri).issue uri).2 with
        requests := (session.only uri).requests ++ [⟨session.nextTicket uri, .unsent⟩] } := by
    simp [only, issue, List.filter_append, Table.only_set, nextTicket]
  change (enqueue (updateEntries { (session.issue uri).2 with
      requests := session.requests ++ [⟨session.nextTicket uri, .unsent⟩] }
        (·.set uri (session.nextTicket uri))) (.send (session.nextTicket uri))).only uri =
    enqueue (updateEntries { ((session.only uri).issue uri).2 with
      requests := (session.only uri).requests ++ [⟨(session.only uri).nextTicket uri, .unsent⟩] }
        (·.set uri ((session.only uri).nextTicket uri))) (.send ((session.only uri).nextTicket uri))
  rw [nextTicket_only, only_enqueue _ uri rfl,
    only_updateEntries _ uri _ (·.set uri (session.nextTicket uri)) (fun entries => entries.only_set uri _),
    requests]

theorem only_updateRequest (ticket : Ticket) (state : RequestState) :
    (session.updateRequest ticket state).only uri = (session.only uri).updateRequest ticket state := by
  have kept (held : Request) :
      (if held.ticket = ticket then { held with state } else held).ticket = held.ticket := by
    split <;> rfl
  simp only [only, updateRequest, List.filter_map]
  congr 2
  apply List.filter_congr
  intro held _
  simp [kept]

private theorem only_forgetRequest {request : Ticket} (here : request.uri = uri) :
    (session.forgetRequest request).only uri = (session.only uri).forgetRequest request := by
  apply only_updateEntries
  intro entries
  rw [here, Table.get?_only]
  split
  · exact entries.only_erase uri uri
  · rfl

private theorem only_resumeAll (ticket : Ticket) :
    (session.resumeAll ticket).only uri = (session.only uri).resumeAll ticket := by
  have resumed := filter_map_resume (fun named => named.uri = uri) (fun job => job.uri = uri)
    (fun _ => rfl) ticket session.tasks
  unfold resumeAll only
  simp only [List.filter_append]
  rw [resumed]
  rfl

theorem respects_emitAll (effects : List Effect) : Respects (·.only uri) (·.emitAll effects) := by
  intro session
  simp only [only_emitAll, only_only]

private theorem only_taking {job : Job} : (session.taking job).only uri = (session.only uri).taking job := by
  simp only [taking, only, List.erase_filter]

end Writing

/-- The part for a document has what is kept of the document. -/
def Projection.only (uri : String) : Projection where
  part session := session.only uri
  covers named := named = uri
  keeps job := job.uri = uri
  twice session := session.only_only uri
  client _ := rfl
  rule _ := rfl
  hasPlugins _ := rfl
  transport _ := rfl
  timeout session := by
    unfold Session.only
    cases session.cache <;> rfl
  stored session _ here := here ▸ session.get?_only uri
  request session _ here := session.request?_only here
  entered session _ here := here ▸ session.validating.get?_only uri
  cached session _ here := by
    subst here
    unfold Session.only
    cases session.cache with
    | none => rfl
    | some cache => simp [Cache.only]
  next session _ here := here ▸ session.nextTicket_only uri
  emits effects := respects_emitAll uri effects
  fails transport session := (Session.only_only { session with transport } uri).symm
  counts _ session := (session.only_only uri).symm
  greets client session := by
    simp only [Session.only, Store.only, Option.map_some, Table.only_only, List.filter_filter,
      Bool.and_self]
  retirement here := here
  queues session _ here := session.only_enqueue uri here
  changes session task := session.only_updateTask uri task
  drops session ticket := by
    simp only [Session.only, List.filter_comm]
  moves session ticket state := session.only_updateRequest uri ticket state
  resumes session ticket := session.only_resumeAll uri ticket
  asks session _ here := here ▸ session.only_askFor uri
  forgets session _ here := session.only_forgetRequest uri here
  retires session named := by
    simp only [Session.only, Table.only_erase]

theorem only_cancelTask (session : Session) {uri : String} {ticket : Ticket} (here : ticket.uri = uri) :
    (session.cancelTask ticket).only uri = (session.only uri).cancelTask ticket :=
  (Projection.only uri).cancelTask session here (session.task?_only here)

section Turns

variable {session : Session} {uri : String}

theorem Wired.only_cancelValidation (wired : session.Wired) (uri : String) :
    (session.cancelValidation uri).only uri = (session.only uri).cancelValidation uri := by
  have same : (session.only uri).validating.get? uri = session.validating.get? uri :=
    session.validating.get?_only uri
  unfold Session.cancelValidation
  rw [same]
  cases entered : session.validating.get? uri with
  | none => rfl
  | some ticket =>
    have erased : ({ session with validating := session.validating.erase uri } : Session).only uri =
        { session.only uri with validating := (session.only uri).validating.erase uri } := by
      simp only [only, Table.only_erase]
    have named := wired.validating_named uri ticket entered
    rw [only_cancelTask _ named, erased]

theorem Wired.only_schedule (wired : session.Wired) (uri : String) :
    (session.schedule uri).only uri = (session.only uri).schedule uri := by
  have entered (later : Session) (ticket : Ticket) :
      ({ later with validating := later.validating.set uri ticket } : Session).only uri =
        { later.only uri with validating := (later.only uri).validating.set uri ticket } := by
    simp only [only, Table.only_set]
  have named : (session.cancelValidation uri).nextTicket uri =
      ((session.only uri).cancelValidation uri).nextTicket uri := by
    rw [← wired.only_cancelValidation, nextTicket_only]
  change ({ ((session.cancelValidation uri).startTask uri .push).2 with
    validating := ((session.cancelValidation uri).startTask uri .push).2.validating.set uri
      ((session.cancelValidation uri).nextTicket uri) } : Session).only uri = _
  rw [entered, only_startTask, wired.only_cancelValidation, named]
  rfl

/-- Entries are requests for their own documents. -/
theorem Wired.asks_only (wired : session.Wired) (uri : String) : (Projection.only uri).Asks session uri :=
  fun cache request held listed => (wired.entries_asked cache uri request held listed).1

/-- A job about a document depends on the part for the document only. -/
theorem Wired.only_run (wired : session.Wired) {job : Job} (here : job.uri = uri) :
    (session.run job).only uri = ((session.only uri).run job).only uri := by
  by_cases ready : job ∈ session.ready
  · have taken : (session.taking job).Wired := wired.change (.ran job ready)
    rw [session.perform_taking ready, perform_taking _ ((session.mem_ready_only here).mpr ready),
      ← only_taking]
    cases job with
    | start ticket =>
      exact (Projection.only uri).runStart here (task?_only _ here) (here ▸ taken.asks_only uri)
    | resume ticket =>
      refine (Projection.only uri).runResume here (task?_only _ here) ?_
      intro task request subject version found stage
      have asked := (taken.waits_asked task (mem_of_task? found) request subject version stage).1
      exact asked.trans ((congrArg Ticket.uri (ticket_of_task? found)).trans here)
    | send ticket => exact (Projection.only uri).sendRequest _ here
    | deliver ticket => exact (Projection.only uri).deliverReply _ here
    | retire ticket => exact (Projection.only uri).runRetire here _
  · rw [run_of_not_ready _ ready, run_of_not_ready _ (mt (session.mem_ready_only here).mp ready),
      only_only]

end Turns

section Apart

variable {session later : Session} {event : Event} {uri about : String}

theorem only_enqueue_of_ne (session : Session) {job : Job} (other : job.uri ≠ uri) :
    (session.enqueue job).only uri = session.only uri := by
  simp [only, enqueue, other]

theorem only_emitAll_of_ne (session : Session) {effects : List Effect}
    (others : ∀ effect ∈ effects, effect.isFor uri = false) :
    (session.emitAll effects).only uri = session.only uri := by
  have none : effects.filter (·.isFor uri) = [] := by
    simpa only [List.filter_eq_nil_iff, Bool.not_eq_true] using others
  rw [only_emitAll, none, emitAll, List.append_nil]

theorem only_emit_of_ne (session : Session) {effect : Effect} (other : effect.isFor uri = false) :
    (session.emit effect).only uri = session.only uri :=
  session.only_emitAll_of_ne (List.forall_mem_singleton.mpr other)

theorem only_updateTask_of_ne (session : Session) {task : Task} (other : task.uri ≠ uri) :
    (session.updateTask task).only uri = session.only uri := by
  have kept : (session.only uri).tasks.map
      (fun held => if held.ticket = task.ticket then task else held) = (session.only uri).tasks := by
    rw [List.map_congr_left (g := id), List.map_id]
    intro held member
    have own : held.uri = uri := by simpa using (List.mem_filter.mp member).2
    rw [if_neg, id]
    intro same
    exact other (by rw [Task.uri, ← same]; exact own)
  rw [only_updateTask, updateTask, kept]

theorem only_updateRequest_of_ne (session : Session) {ticket : Ticket} (state : RequestState)
    (other : ticket.uri ≠ uri) :
    (session.updateRequest ticket state).only uri = session.only uri := by
  have kept : (session.only uri).requests.map
      (fun held => if held.ticket = ticket then { held with state } else held) =
        (session.only uri).requests := by
    rw [List.map_congr_left (g := id), List.map_id]
    intro held member
    have own : held.ticket.uri = uri := by simpa using (List.mem_filter.mp member).2
    rw [if_neg, id]
    rintro rfl
    exact other own
  rw [only_updateRequest, updateRequest, kept]

theorem only_updateEntries_of_ne (session : Session) (update : Table Ticket → Table Ticket)
    (same : ∀ entries : Table Ticket, (update entries).only uri = entries.only uri) :
    (session.updateEntries update).only uri = session.only uri := by
  rw [session.only_updateEntries uri update id same]
  unfold updateEntries only
  cases session.cache <;> rfl

theorem only_cancelTask_of_ne (session : Session) {ticket : Ticket} (other : ticket.uri ≠ uri) :
    (session.cancelTask ticket).only uri = session.only uri := by
  rcases session.cancelTask_cases ticket with ⟨same, _⟩ | ⟨task, found, _, cases⟩
  · rw [same]
  · have marked : (session.updateTask { task with cancelled := true }).only uri = session.only uri := by
      apply only_updateTask_of_ne
      rw [Task.uri, ticket_of_task? found]
      exact other
    rcases cases with ⟨_, same⟩ | ⟨_, same⟩ <;> rw [same]
    · exact marked
    · rw [only_enqueue_of_ne _ (show (Job.resume ticket).uri ≠ uri from other), marked]

theorem only_startTask_of_ne (session : Session) (purpose : Purpose) (other : about ≠ uri) :
    (session.startTask about purpose).2.only uri = session.only uri := by
  change (enqueue { (session.issue about).2 with
    tasks := session.tasks ++ [Task.mk (session.nextTicket about) purpose .created false] }
      (.start (session.nextTicket about))).only uri = _
  rw [only_enqueue_of_ne _ (show (Job.start (session.nextTicket about)).uri ≠ uri from other)]
  simp [only, issue, List.filter_append, Table.only_set_of_ne _ _ other, Task.uri, nextTicket, other]

private theorem only_askFor_of_ne (session : Session) (other : about ≠ uri) :
    (session.askFor about).2.only uri = session.only uri := by
  change (enqueue (updateEntries { (session.issue about).2 with
      requests := session.requests ++ [⟨session.nextTicket about, .unsent⟩] }
        (·.set about (session.nextTicket about))) (.send (session.nextTicket about))).only uri = _
  rw [only_enqueue_of_ne _ (show (Job.send (session.nextTicket about)).uri ≠ uri from other),
    only_updateEntries_of_ne _ _ (fun entries => entries.only_set_of_ne _ other)]
  simp [only, issue, List.filter_append, Table.only_set_of_ne _ _ other, nextTicket, other]

private theorem only_endTask_of_ne (session : Session) {task : Task} (other : task.uri ≠ uri) :
    (session.endTask task).only uri = session.only uri := by
  have kept : ({ session with tasks := session.tasks.filter (·.ticket ≠ task.ticket) } : Session).only uri =
      session.only uri := by
    have tasks : (session.tasks.filter (·.ticket ≠ task.ticket)).filter (·.uri = uri) =
        session.tasks.filter (·.uri = uri) := by
      rw [List.filter_filter]
      apply List.filter_congr
      intro held _
      by_cases own : held.uri = uri
      · have apart : held.ticket ≠ task.ticket := by
          intro same
          exact other (by rw [Task.uri, ← same]; exact own)
        simp [own, apart]
      · simp [own]
    simp only [only, tasks]
  unfold endTask
  cases task.purpose with
  | push =>
    simp only
    rw [only_enqueue_of_ne _ (show (Job.retire task.ticket).uri ≠ uri from other), kept]
  | pull => exact kept
  | diagnose => exact kept
  | settings => exact kept

theorem Wired.only_cancelValidation_of_ne (wired : session.Wired) (other : about ≠ uri) :
    (session.cancelValidation about).only uri = session.only uri := by
  unfold Session.cancelValidation
  cases entered : session.validating.get? about with
  | none => rfl
  | some ticket =>
    simp only
    rw [only_cancelTask_of_ne]
    · simp only [only, Table.only_erase_of_ne _ other]
    · rw [wired.validating_named about ticket entered]
      exact other

theorem Wired.only_schedule_of_ne (wired : session.Wired) (other : about ≠ uri) :
    (session.schedule about).only uri = session.only uri := by
  have entered (later : Session) (ticket : Ticket) :
      ({ later with validating := later.validating.set about ticket } : Session).only uri =
        later.only uri := by
    simp only [only, Table.only_set_of_ne _ _ other]
  change ({ ((session.cancelValidation about).startTask about .push).2 with
    validating := ((session.cancelValidation about).startTask about .push).2.validating.set about
      ((session.cancelValidation about).nextTicket about) } : Session).only uri = _
  rw [entered, only_startTask_of_ne _ _ other, wired.only_cancelValidation_of_ne other]

/-- Whoever waits for a request is about the document of the request. -/
theorem Wired.only_settleRequest_of_ne (wired : session.Wired) {ticket : Ticket} (reply : Reply)
    (other : ticket.uri ≠ uri) : (session.settleRequest ticket reply).only uri = session.only uri := by
  have resumed : ((session.tasks.filter (·.waitsFor ticket)).map
      fun task => Job.resume task.ticket).filter (·.uri = uri) = [] := by
    rw [List.filter_eq_nil_iff]
    intro job member
    obtain ⟨task, waiting, rfl⟩ := List.mem_map.mp member
    obtain ⟨held, waits⟩ := List.mem_filter.mp waiting
    obtain ⟨subject, version, stage⟩ := waitsFor_iff.mp waits
    rw [(wired.waits_asked task held ticket subject version stage).1] at other
    exact fun own => other (of_decide_eq_true own)
  have settled (later : Session) (state : RequestState) (same : later.only uri = session.only uri) :
      ({ later.updateRequest ticket state with
        ready := later.ready ++
          (session.tasks.filter (·.waitsFor ticket)).map fun task => .resume task.ticket } : Session).only uri =
        session.only uri := by
    have ready : ({ later.updateRequest ticket state with
        ready := later.ready ++
          (session.tasks.filter (·.waitsFor ticket)).map fun task => .resume task.ticket } : Session).only uri =
        (later.updateRequest ticket state).only uri := by
      simp only [only, List.filter_append, resumed, List.append_nil]
      rfl
    rw [ready, only_updateRequest_of_ne _ _ other, same]
  unfold Session.settleRequest
  cases reply with
  | fault fault => exact settled (session.emit _) _ (session.only_emit_of_ne rfl)
  | result value => exact settled session _ rfl
  | cancelled => exact settled session _ rfl

/-- A move for another document leaves the part for a document alone, while the transport does not
fail. -/
theorem Move.only_of_ne (move : Move event about session later) (wired : session.Wired)
    (sends : session.transport.publishFault = none) (specific : event.document?.isSome)
    (other : about ≠ uri) : later.only uri = session.only uri := by
  have published {publication : Publication} (apart : publication.uri ≠ uri) :
      (session.publish publication).2.only uri = session.only uri := by
    rcases session.publish_cases publication with ⟨_, same⟩ | ⟨_, _, failing, _⟩ | ⟨_, _, same⟩
    · rw [same]
    · rw [sends] at failing
      cases failing
    · rw [same]
      exact session.only_emit_of_ne (by simpa [Effect.isFor] using apart)
  cases move with
  | tell effects told =>
    exact session.only_emitAll_of_ne fun effect member => (told effect member).not_isFor uri
  | answer id response => exact session.only_emit_of_ne (by simpa [Effect.isFor] using other)
  | count => rfl
  | refresh refreshes transport general =>
    rw [general] at specific
    cases specific
  | push => exact published other
  | notice => exact published other
  | begin => exact session.only_startTask_of_ne _ other
  | schedule => exact wired.only_schedule_of_ne other
  | takeBack => exact wired.only_cancelValidation_of_ne other
  | cancel task _ _ here => exact session.only_cancelTask_of_ne (show task.uri ≠ uri from here ▸ other)
  | finish task _ _ here => exact session.only_endTask_of_ne (here ▸ other)
  | wait task _ _ _ _ _ here => exact session.only_updateTask_of_ne (show task.uri ≠ uri from here ▸ other)
  | ask => exact session.only_askFor_of_ne other
  | evict => exact session.only_updateEntries_of_ne _ fun entries => entries.only_erase_of_ne other
  | sent ticket _ here =>
    subst here
    rw [only_emit_of_ne _ (by simpa [Effect.isFor] using other), only_updateRequest_of_ne _ _ other]
  | settle ticket reply _ here => exact wired.only_settleRequest_of_ne reply (here ▸ other)
  | receive ticket reply here =>
    subst here
    rw [only_enqueue_of_ne _ (show (Job.deliver ticket).uri ≠ uri from other),
      only_updateRequest_of_ne _ _ other]
  | retire ticket _ here =>
    subst here
    unfold runRetire
    split
    · simp only [only, Table.only_erase_of_ne _ other]
    · rfl

theorem Moves.only_of_ne (moves : Moves event about session later) (wired : session.Wired)
    (sends : session.transport.publishFault = none) (specific : event.document?.isSome)
    (other : about ≠ uri) : later.only uri = session.only uri := by
  induction moves with
  | refl => rfl
  | tail earlier last step =>
    have sending := AnyMoves.keep (Moves.any earlier) sends fun move held => move.sends held
    rw [last.only_of_ne (wired.moves (Moves.any earlier)) sending specific other, step]

end Apart

end Session

end HazeServer
