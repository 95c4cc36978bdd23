import HazeServer.Proofs.Session.Step

/-! # Progress

A session is prompt if every job that has to happen is on its list. No move takes a job off the list,
none brings about a duty without adding the job for it, and a job that happens does what was due. So
every run leaves a session prompt; once its list is empty and the client owes no reply, no task is
left.
-/

namespace HazeServer

namespace Session

/-- Every job that has to happen is on the list. -/
def Prompt (session : Session) : Prop :=
  ∀ job, session.Owes job → job ∈ session.ready

/-- No job is lost, and every new duty has its job. -/
structure KeepsJobs (session later : Session) : Prop where
  kept : ∀ job ∈ session.ready, job ∈ later.ready
  listed : ∀ job, later.Owes job → session.Owes job ∨ job ∈ later.ready

theorem outcome?_eq_some {session : Session} {ticket : Ticket} {outcome : Outcome} :
    session.outcome? ticket = some outcome ↔
      session.requestState? ticket = some (.settled outcome) := by
  unfold outcome? requestState?
  cases session.request? ticket with
  | none => simp
  | some request =>
    simp only [Option.bind_some, Option.map_some, Option.some.injEq, Request.outcome?]
    cases request.state <;> simp

theorem requestState?_updateRequest (session : Session) (ticket other : Ticket)
    (state : RequestState) :
    (session.updateRequest ticket state).requestState? other =
      if other = ticket then (session.requestState? other).map fun _ => state
      else session.requestState? other := by
  unfold requestState?
  rw [request?_updateRequest]
  split
  · cases session.request? other <;> rfl
  · rfl

theorem requestState?_askFor (session : Session) (uri : String) (ticket : Ticket) :
    (session.askFor uri).2.requestState? ticket =
      (session.requestState? ticket).or
        (if ticket = session.nextTicket uri then some .unsent else none) := by
  unfold requestState?
  rw [request?_askFor]
  cases session.request? ticket with
  | some request => rfl
  | none =>
    rw [Option.none_or, Option.map_none, Option.none_or]
    split <;> rfl

namespace KeepsJobs

theorem refl (session : Session) : session.KeepsJobs session :=
  ⟨fun _ member => member, fun _ => .inl⟩

theorem trans {first second third : Session} (left : first.KeepsJobs second)
    (right : second.KeepsJobs third) : first.KeepsJobs third := by
  refine ⟨fun job member => right.kept job (left.kept job member), fun job owes => ?_⟩
  rcases right.listed job owes with owed | new
  · exact (left.listed job owed).imp_right (right.kept job)
  · exact .inr new

variable {session later : Session}

/-- What tasks and requests have to do depends on nothing else. -/
theorem of_same (tasks : later.tasks = session.tasks) (requests : later.requests = session.requests)
    (kept : ∀ job ∈ session.ready, job ∈ later.ready) : session.KeepsJobs later := by
  refine ⟨kept, fun job owes => .inl ?_⟩
  cases job <;>
    simp only [Owes, task?, outcome?, requestState?, request?, tasks, requests] at owes ⊢ <;> exact owes

/-- If the requests are the same, only tasks can have new duties. -/
theorem of_tasks (requests : later.requests = session.requests)
    (kept : ∀ job ∈ session.ready, job ∈ later.ready)
    (starts : ∀ ticket task, later.task? ticket = some task → task.stage = .created →
      session.Owes (.start ticket) ∨ .start ticket ∈ later.ready)
    (resumes : ∀ ticket task request subject version, later.task? ticket = some task →
      task.stage = .waiting request subject version →
      (task.cancelled = true ∨ (session.outcome? request).isSome) →
      session.Owes (.resume ticket) ∨ .resume ticket ∈ later.ready) : session.KeepsJobs later := by
  refine ⟨kept, fun job owes => ?_⟩
  cases job with
  | start ticket =>
    obtain ⟨task, found, new⟩ := owes
    exact starts ticket task found new
  | resume ticket =>
    obtain ⟨task, request, subject, version, found, waits, due⟩ := owes
    have outcome : later.outcome? request = session.outcome? request := by
      unfold outcome? request?
      rw [requests]
    rw [outcome] at due
    exact resumes ticket task request subject version found waits due
  | send ticket => left; simpa only [Owes, requestState?, request?, requests] using owes
  | deliver ticket => left; simpa only [Owes, requestState?, request?, requests] using owes
  | retire ticket => exact owes.elim

/-- If the tasks are the same, only requests can have new duties, and tasks whose request is
settled. -/
theorem of_requests (tasks : later.tasks = session.tasks)
    (kept : ∀ job ∈ session.ready, job ∈ later.ready)
    (sends : ∀ ticket, later.requestState? ticket = some .unsent →
      session.requestState? ticket = some .unsent ∨ .send ticket ∈ later.ready)
    (delivers : ∀ ticket reply, later.requestState? ticket = some (.answered reply) →
      session.requestState? ticket = some (.answered reply) ∨ .deliver ticket ∈ later.ready)
    (settles : ∀ ticket outcome, later.requestState? ticket = some (.settled outcome) →
      session.requestState? ticket = some (.settled outcome) ∨
        ∀ task ∈ session.tasks, task.waitsFor ticket → .resume task.ticket ∈ later.ready) :
    session.KeepsJobs later := by
  have same (ticket : Ticket) : later.task? ticket = session.task? ticket := by
    unfold task?
    rw [tasks]
  refine ⟨kept, fun job owes => ?_⟩
  cases job with
  | start ticket =>
    left
    simpa only [Owes, same] using owes
  | send ticket => exact sends ticket owes
  | deliver ticket =>
    obtain ⟨reply, answered⟩ := owes
    exact (delivers ticket reply answered).imp_left fun before => ⟨reply, before⟩
  | retire ticket => exact owes.elim
  | resume ticket =>
    obtain ⟨task, request, subject, version, found, waits, due⟩ := owes
    rw [same] at found
    rcases due with cancelled | settled
    · exact .inl ⟨task, request, subject, version, found, waits, .inl cancelled⟩
    · obtain ⟨outcome, outcome_eq⟩ := Option.isSome_iff_exists.mp settled
      rcases settles request outcome (outcome?_eq_some.mp outcome_eq) with before | listed
      · refine .inl ⟨task, request, subject, version, found, waits, .inr ?_⟩
        rw [outcome?_eq_some.mpr before]
        rfl
      · have awaits : task.waitsFor request := by simp [Task.waitsFor, waits]
        have member := listed task (mem_of_task? found) awaits
        rw [ticket_of_task? found] at member
        exact .inr member

theorem startTask (session : Session) (uri : String) (purpose : Purpose) :
    session.KeepsJobs (session.startTask uri purpose).2 := by
  refine of_tasks rfl ?_ ?_ ?_
  · intro job member
    exact List.mem_append_left _ member
  · intro ticket task found new
    rw [task?_startTask, Option.or_eq_some_iff] at found
    rcases found with held | ⟨_, own⟩
    · exact .inl ⟨task, held, new⟩
    · split at own
      · next same => exact .inr (same ▸ List.mem_append_right _ (List.mem_singleton.mpr rfl))
      · cases own
  · intro ticket task request subject version found waits due
    rw [task?_startTask, Option.or_eq_some_iff] at found
    rcases found with held | ⟨_, own⟩
    · exact .inl ⟨task, request, subject, version, held, waits, due⟩
    · split at own
      · cases own
        cases waits
      · cases own

theorem cancelTask (session : Session) (ticket : Ticket) :
    session.KeepsJobs (session.cancelTask ticket) := by
  have requests : (session.cancelTask ticket).requests = session.requests := by
    rw [session.cancelTask_frame ticket]
  have kept : ∀ job ∈ session.ready, job ∈ (session.cancelTask ticket).ready := by
    intro job member
    rcases session.cancelTask_cases ticket with ⟨same, _⟩ | ⟨_, _, _, ⟨_, same⟩ | ⟨_, same⟩⟩ <;> rw [same]
    · exact member
    · exact member
    · exact List.mem_append_left _ member
  apply of_tasks requests kept
  · intro other task found new
    rw [task?_cancelTask] at found
    split at found
    · obtain ⟨held, before, rfl⟩ := Option.map_eq_some_iff.mp found
      exact .inl ⟨held, before, new⟩
    · exact .inl ⟨task, found, new⟩
  · intro other task request subject version found waits due
    rw [task?_cancelTask] at found
    split at found
    · next same =>
      subst same
      obtain ⟨held, before, rfl⟩ := Option.map_eq_some_iff.mp found
      rcases session.cancelTask_cases other with ⟨_, already⟩ | ⟨marked, own, _, ⟨new, _⟩ | ⟨_, same⟩⟩
      · exact .inl ⟨held, request, subject, version, before, waits, .inl (already held before)⟩
      · obtain rfl := Option.some.inj (own.symm.trans before)
        rw [new] at waits
        cases waits
      · right
        rw [same]
        exact List.mem_append_right _ (List.mem_singleton.mpr rfl)
    · exact .inl ⟨task, request, subject, version, found, waits, due⟩

theorem cancelValidation (session : Session) (uri : String) :
    session.KeepsJobs (session.cancelValidation uri) := by
  rcases session.cancelValidation_cases uri with ⟨_, same⟩ | ⟨ticket, _, same⟩ <;> rw [same]
  · exact refl session
  · exact (cancelTask session ticket).trans (of_same rfl rfl fun _ => id)

private theorem schedule (session : Session) (uri : String) : session.KeepsJobs (session.schedule uri) :=
  (cancelValidation session uri).trans ((startTask _ uri .push).trans (of_same rfl rfl fun _ => id))

private theorem endTask (session : Session) (task : Task) : session.KeepsJobs (session.endTask task) := by
  have requests : (session.endTask task).requests = session.requests := by
    rw [session.endTask_frame task]
  apply of_tasks requests
  · intro job member
    unfold Session.endTask
    split
    · exact List.mem_append_left _ member
    · exact member
  · intro ticket held found new
    rw [task?_endTask] at found
    split at found
    · cases found
    · exact .inl ⟨held, found, new⟩
  · intro ticket held request subject version found waits due
    rw [task?_endTask] at found
    split at found
    · cases found
    · exact .inl ⟨held, request, subject, version, found, waits, due⟩

private theorem withdraw (session : Session) (uri : String) : session.KeepsJobs (session.withdraw uri) := by
  have frame := session.withdraw_frame uri
  have kept : ∀ job ∈ session.ready, job ∈ (session.withdraw uri).ready := by
    rw [frame]
    exact fun _ => id
  apply of_tasks (by rw [frame]) kept
  · intro ticket task found new
    rw [task?_withdraw] at found
    split at found
    · exact .inl ⟨task, found, new⟩
    · obtain ⟨held, before, rfl⟩ := Option.map_eq_some_iff.mp found
      exact .inl ⟨held, before, withdrawnTask_created.mp new⟩
  · intro ticket task request subject version found waits due
    rw [task?_withdraw] at found
    split at found
    · exact .inl ⟨task, request, subject, version, found, waits, due⟩
    · obtain ⟨held, before, rfl⟩ := Option.map_eq_some_iff.mp found
      obtain ⟨about, waited, _⟩ := withdrawnTask_waiting waits
      rw [withdrawnTask_cancelled] at due
      exact .inl ⟨held, request, about, version, before, waited, due⟩

/-- A task that waits for a request without an outcome has nothing to do. -/
theorem wait (session : Session) (task : Task) (request : Ticket) (subject : Subject)
    (version : Json) (live : task.cancelled = false) (unsettled : session.outcome? request = none) :
    session.KeepsJobs
      (session.updateTask { task with stage := .waiting request subject version }) := by
  refine of_tasks rfl (fun _ => id) ?_ ?_
  · intro ticket held found new
    rw [task?_updateTask] at found
    split at found
    · obtain ⟨_, _, rfl⟩ := Option.map_eq_some_iff.mp found
      cases new
    · exact .inl ⟨held, found, new⟩
  · intro ticket held awaited about seen found waits due
    rw [task?_updateTask] at found
    split at found
    · obtain ⟨_, _, rfl⟩ := Option.map_eq_some_iff.mp found
      cases waits
      have settled : session.outcome? request ≠ none := by
        rcases due with cancelled | settled
        · exact absurd (live.symm.trans cancelled) (by simp)
        · exact Option.isSome_iff_ne_none.mp settled
      exact absurd unsettled settled
    · exact .inl ⟨held, awaited, about, seen, found, waits, due⟩

private theorem askFor (session : Session) (uri : String) : session.KeepsJobs (session.askFor uri).2 := by
  refine of_requests rfl ?_ ?_ ?_ ?_
  · intro job member
    exact List.mem_append_left _ member
  · intro ticket unsent
    rw [requestState?_askFor, Option.or_eq_some_iff] at unsent
    rcases unsent with before | ⟨_, new⟩
    · exact .inl before
    · split at new
      · next same => exact .inr (same ▸ List.mem_append_right _ (List.mem_singleton.mpr rfl))
      · cases new
  · intro ticket reply answered
    rw [requestState?_askFor, Option.or_eq_some_iff] at answered
    rcases answered with before | ⟨_, new⟩
    · exact .inl before
    · split at new <;> cases new
  · intro ticket outcome settled
    rw [requestState?_askFor, Option.or_eq_some_iff] at settled
    rcases settled with before | ⟨_, new⟩
    · exact .inl before
    · split at new <;> cases new

/-- The state of a request may change if its new state has its job. -/
theorem changeRequest (ticket : Ticket) {state : RequestState} (tasks : later.tasks = session.tasks)
    (requests : later.requests = (session.updateRequest ticket state).requests)
    (kept : ∀ job ∈ session.ready, job ∈ later.ready) (other : state ≠ .unsent)
    (delivers : ∀ reply, state = .answered reply → .deliver ticket ∈ later.ready)
    (settles : ∀ outcome, state = .settled outcome → ∀ task ∈ session.tasks, task.waitsFor ticket →
      .resume task.ticket ∈ later.ready) : session.KeepsJobs later := by
  have changed (named : Ticket) (new : RequestState) (held : later.requestState? named = some new) :
      session.requestState? named = some new ∨ (named = ticket ∧ new = state) := by
    have same : later.requestState? named = (session.updateRequest ticket state).requestState? named := by
      unfold requestState? request?
      rw [requests]
    rw [same, requestState?_updateRequest] at held
    split at held
    · next own =>
      obtain ⟨_, _, rfl⟩ := Option.map_eq_some_iff.mp held
      exact .inr ⟨own, rfl⟩
    · exact .inl held
  refine of_requests tasks kept ?_ ?_ ?_
  · intro named unsent
    rcases changed named _ unsent with before | ⟨_, same⟩
    · exact .inl before
    · exact absurd same.symm other
  · intro named reply answered
    rcases changed named _ answered with before | ⟨rfl, same⟩
    · exact .inl before
    · exact .inr (delivers reply same.symm)
  · intro named outcome settled
    rcases changed named _ settled with before | ⟨rfl, same⟩
    · exact .inl before
    · exact .inr (settles outcome same.symm)

private theorem settleRequest (session : Session) (ticket : Ticket) (reply : Reply) :
    session.KeepsJobs (session.settleRequest ticket reply) := by
  have settled (outbox : List Effect) : session.KeepsJobs
      { session.updateRequest ticket (.settled (outcomeOf reply)) with
        outbox
        ready := session.ready ++
          (session.tasks.filter (·.waitsFor ticket)).map fun task => .resume task.ticket } := by
    refine changeRequest ticket rfl rfl ?_ (by simp) (by simp) ?_
    · exact fun job member => List.mem_append_left _ member
    · intro outcome _ task member waits
      exact List.mem_append_right _
        (List.mem_map.mpr ⟨task, List.mem_filter.mpr ⟨member, waits⟩, rfl⟩)
  unfold Session.settleRequest
  cases reply <;> exact settled _

private theorem publish (session : Session) (publication : Publication) :
    session.KeepsJobs (session.publish publication).2 := by
  rw [publish_frame]
  exact of_same rfl rfl fun _ => id

theorem move {event : Event} {uri : String} (move : Move event uri session later) :
    session.KeepsJobs later := by
  cases move with
  | tell => exact of_same rfl rfl fun _ => id
  | answer => exact of_same rfl rfl fun _ => id
  | count => exact of_same rfl rfl fun _ => id
  | refresh => exact of_same rfl rfl fun _ => id
  | evict => exact of_same rfl rfl fun _ => id
  | push => exact publish session _
  | notice => exact publish session _
  | begin purpose => exact startTask session uri purpose
  | schedule => exact schedule session uri
  | takeBack => exact cancelValidation session uri
  | cancel task => exact cancelTask session task.ticket
  | finish task => exact endTask session task
  | wait task request version _ _ _ _ _ live _ _ _ unsettled =>
    exact wait session task request .stored version live unsettled
  | ask => exact askFor session uri
  | sent ticket => exact changeRequest ticket rfl rfl (fun _ => id) (by simp) (by simp) (by simp)
  | settle ticket reply => exact settleRequest session ticket reply
  | receive ticket reply =>
    refine changeRequest ticket rfl rfl ?_ (by simp) ?_ (by simp)
    · exact fun job member => List.mem_append_left _ member
    · exact fun _ _ => List.mem_append_right _ (List.mem_singleton.mpr rfl)
  | retire ticket => rw [runRetire_frame]; exact of_same rfl rfl fun _ => id

theorem moves {event : Event} (moves : AnyMoves event session later) : session.KeepsJobs later :=
  moves.lift refl trans move

/-- A change brings about no duty; only a job that happens leaves the list. -/
theorem change {event : Event} (change : session.Change event later)
    (calm : ∀ job, event ≠ .run job) : session.KeepsJobs later := by
  cases change with
  | still => exact refl session
  | greeted => exact of_same rfl rfl fun _ => id
  | opened uri => exact (withdraw session uri).trans (of_same rfl rfl fun _ => id)
  | edited => exact of_same rfl rfl fun _ => id
  | closed uri => exact (withdraw session uri).trans (of_same rfl rfl fun _ => id)
  | cleared => exact of_same rfl rfl fun _ => id
  | shared => exact of_same rfl rfl fun _ => id
  | ruled => exact of_same rfl rfl fun _ => id
  | hooked => exact of_same rfl rfl fun _ => id
  | faulty => exact of_same rfl rfl fun _ => id
  | ran job => exact absurd rfl (calm job)

end KeepsJobs

theorem requestState?_settleRequest (session : Session) (ticket other : Ticket) (reply : Reply) :
    (session.settleRequest ticket reply).requestState? other =
      if other = ticket then
        (session.requestState? other).map fun _ => .settled (outcomeOf reply)
      else session.requestState? other := by
  rw [← requestState?_updateRequest, settleRequest_frame]
  rfl

/-- A task that goes on either waits or is gone; no other task is touched. -/
theorem task?_proceed (session : Session) (task : Task) (subject : Subject) (version : Json)
    (lookup : Lookup) (ticket : Ticket) :
    (session.proceed task subject version lookup).task? ticket =
      if ticket = task.ticket then
        match lookup with
        | .waiting request =>
            (session.task? ticket).map fun _ =>
              { task with stage := .waiting request subject version }
        | _ => none
      else session.task? ticket := by
  have ended (later : Session) (tasks : later.tasks = session.tasks) :
      (later.endTask task).task? ticket =
        if ticket = task.ticket then none else session.task? ticket := by
    rw [task?_endTask]
    unfold task?
    rw [tasks]
  have answered (response : Response) : (session.answer task response).tasks = session.tasks := by
    rw [answer_eq_emitAll]
    rfl
  unfold proceed
  cases lookup with
  | waiting request => exact session.task?_updateTask _ ticket
  | cancelled => exact ended _ (answered _)
  | fault fault =>
    simp only
    split
    · exact ended _ (answered _)
    · exact ended _ (session.tasks_finishValidation task subject version _)
  | found settings =>
    simp only
    split
    · exact ended _ (answered _)
    · apply ended
      unfold validateWith
      split
      · rfl
      · exact tasks_finishValidation _ task subject version _

/-- A job that has happened does not have to happen again. -/
theorem not_owes_runStart (session : Session) (ticket : Ticket) :
    ¬ (session.runStart ticket).Owes (.start ticket) := by
  have turns := session.turns_runStart ticket
  generalize session.runStart ticket = later at turns
  rintro ⟨held, found, new⟩
  cases turns with
  | idle unowed => exact unowed ⟨held, found, new⟩
  | dismiss task _ named _ =>
    rcases named with same | same <;> cases same
    rw [task?_endTask, if_pos rfl] at found
    cases found
  | empty task =>
    unfold endEmpty at found
    rw [task?_endTask, if_pos rfl] at found
    cases found
  | turn takes =>
    cases takes with
    | first task version =>
      rw [task?_proceed, if_pos rfl] at found
      split at found
      · obtain ⟨_, _, rfl⟩ := Option.map_eq_some_iff.mp found
        cases new
      · cases found

private theorem not_owes_runResume (session : Session) (ticket : Ticket) :
    ¬ (session.runResume ticket).Owes (.resume ticket) := by
  have turns := session.turns_runResume ticket
  generalize session.runResume ticket = later at turns
  rintro ⟨held, request, subject, version, found, waits, due⟩
  cases turns with
  | idle unowed => exact unowed ⟨held, request, subject, version, found, waits, due⟩
  | dismiss task _ named _ =>
    rcases named with same | same <;> cases same
    rw [task?_endTask, if_pos rfl] at found
    cases found
  | turn takes =>
    cases takes with
    | later task awaited about seen outcome =>
      rw [task?_proceed, if_pos rfl] at found
      split at found
      · next other same => exact absurd same (session.learn_not_waiting awaited other outcome)
      · cases found

private theorem not_owes_sendRequest (session : Session) (ticket : Ticket) :
    ¬ (session.sendRequest ticket).Owes (.send ticket) := by
  change ¬ (session.sendRequest ticket).requestState? ticket = some .unsent
  unfold sendRequest
  split
  · split
    · rw [requestState?_settleRequest, if_pos rfl]
      simp
    · change ¬ (session.updateRequest ticket .sent).requestState? ticket = some .unsent
      rw [requestState?_updateRequest, if_pos rfl]
      simp
  · next other => exact other

private theorem not_owes_deliverReply (session : Session) (ticket : Ticket) :
    ¬ (session.deliverReply ticket).Owes (.deliver ticket) := by
  rintro ⟨reply, answered⟩
  unfold deliverReply at answered
  split at answered
  · rw [requestState?_settleRequest, if_pos rfl] at answered
    simp at answered
  · next other => exact other reply answered

private theorem not_owes_perform (session : Session) (job : Job) : ¬ (session.perform job).Owes job := by
  cases job with
  | start ticket => exact session.not_owes_runStart ticket
  | resume ticket => exact session.not_owes_runResume ticket
  | send ticket => exact session.not_owes_sendRequest ticket
  | deliver ticket => exact session.not_owes_deliverReply ticket
  | retire ticket => exact id

namespace Prompt

theorem fresh (rule : Rule) (hasPlugins : Bool) : (Session.fresh rule hasPlugins).Prompt := by
  intro job owes
  cases job <;> simp [Session.fresh, Owes, task?, requestState?, request?] at owes

theorem forClient (client : ClientSupport) (timeout : Nat) :
    (Session.forClient client timeout).Prompt := by
  intro job owes
  cases job <;> simp [Session.forClient, Owes, task?, requestState?, request?] at owes

variable {session later : Session}

private theorem keep (prompt : session.Prompt) (keeps : session.KeepsJobs later) : later.Prompt := by
  intro job owes
  rcases keeps.listed job owes with owed | new
  · exact keeps.kept job (prompt job owed)
  · exact new

private theorem run (prompt : session.Prompt) (wired : session.Wired) {job : Job}
    (ready : job ∈ session.ready) : (session.run job).Prompt := by
  have keeps := KeepsJobs.moves (wired.moves_run ready).any
  have paid : ¬ (session.run job).Owes job := by
    unfold Session.run
    rw [if_pos ready]
    exact not_owes_perform _ job
  intro other owes
  rcases keeps.listed other owes with owed | new
  · have elsewhere : other ≠ job := by
      rintro rfl
      exact paid owes
    have before : session.Owes other := by
      cases other <;> exact owed
    exact keeps.kept other ((List.mem_erase_of_ne elsewhere).mpr (prompt other before))
  · exact new

theorem step (prompt : session.Prompt) (wired : session.Wired) (event : Event) :
    (session.step event).Prompt := by
  obtain ⟨middle, change, moves⟩ := wired.change_step event
  by_cases runs : ∃ job, event = .run job
  · obtain ⟨job, rfl⟩ := runs
    change (session.run job).Prompt
    by_cases ready : job ∈ session.ready
    · exact prompt.run wired ready
    · unfold Session.run
      rw [if_neg ready]
      exact prompt
  · have calm : ∀ job, event ≠ .run job := fun job same => runs ⟨job, same⟩
    exact prompt.keep ((KeepsJobs.change change calm).trans (.moves moves))

theorem runAll (prompt : session.Prompt) (wired : session.Wired) (events : List Event) :
    (session.runAll events).Prompt :=
  runAll_induction wired Prompt prompt events fun _ event _ wired held => held.step wired event

end Prompt

/-- Nothing can happen unless the client says something, and it owes no reply. -/
structure Quiescent (session : Session) : Prop where
  idle : session.ready = []
  replied : session.outstanding = []

/-- A prompt session that is quiescent has no task left. -/
theorem Quiescent.no_task {session : Session} (quiescent : session.Quiescent)
    (wired : session.Wired) (prompt : session.Prompt) : session.tasks = [] := by
  have unowed (job : Job) : ¬ session.Owes job := by
    intro owes
    have listed := prompt job owes
    rw [quiescent.idle] at listed
    cases listed
  apply List.eq_nil_iff_forall_not_mem.mpr
  intro task member
  have found := wired.task_of_mem member
  cases stage : task.stage with
  | created => exact unowed (.start task.ticket) ⟨task, found, stage⟩
  | waiting ticket subject version =>
    obtain ⟨_, made⟩ := wired.waits_asked task member ticket subject version stage
    obtain ⟨request, held⟩ := Option.isSome_iff_exists.mp made
    have state : session.requestState? ticket = some request.state := by
      unfold requestState?
      rw [held]
      rfl
    cases reached : request.state <;> rw [reached] at state
    case unsent => exact unowed (.send ticket) state
    case answered reply => exact unowed (.deliver ticket) ⟨reply, state⟩
    case settled outcome =>
      refine unowed (.resume task.ticket) ⟨task, ticket, subject, version, found, stage, .inr ?_⟩
      rw [outcome?_eq_some.mpr state]
      rfl
    case sent =>
      have outstanding : request.ticket ∈ session.outstanding :=
        List.mem_map_of_mem (List.mem_filter.mpr
          ⟨List.mem_of_find?_eq_some held, by simp [Request.isOutstanding, reached]⟩)
      rw [quiescent.replied] at outstanding
      cases outstanding

end Session

end HazeServer
