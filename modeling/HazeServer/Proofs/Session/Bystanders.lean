import HazeServer.Proofs.Session.Callers
import HazeServer.Proofs.Session.Projection
import Mathlib.Data.List.Basic
import Mathlib.Data.List.Find

/-! # Sessions that differ in one waiting task

A task that waits for a request does nothing until the request is settled, and nobody looks at it. So
a session may be compared with the one that lacks the task: whatever happens, the two stay the same in
all other respects until the request is settled. `Session.without` takes the task away, and each
operation is shown to do the same with and without it.
-/

namespace HazeServer

namespace Session

/-- A session without a task: neither it nor a job that lets it continue. What was said is left out as
well, since no operation reads it. -/
def without (session : Session) (gone : Ticket) : Session :=
  { session with
    tasks := session.tasks.filter (·.ticket ≠ gone)
    ready := session.ready.filter (· ≠ .resume gone)
    outbox := [] }

/-- A task that answers a request of the client waits, if it is still there, for a settings request
that is not settled. -/
structure Aside (session : Session) (gone : Ticket) (id : RequestId) (request : Ticket) : Prop where
  issued : gone.number < session.issued gone.uri
  waits : ∀ task ∈ session.tasks, task.ticket = gone →
    task.purpose.requestId? = some id ∧ task.waitsFor request = true
  unsettled : session.outcome? request = none

section Silent

variable (session : Session) (gone : Ticket)

@[simp] theorem without_without :
    (session.without gone).without gone = session.without gone := by
  simp [without]

theorem task?_without {ticket : Ticket} (other : ticket ≠ gone) :
    (session.without gone).task? ticket = session.task? ticket := by
  unfold task? without
  rw [List.find?_filter]
  apply List.find?_congr
  intro task _
  by_cases same : task.ticket = ticket
  · simp [same, other]
  · simp [same]

theorem task?_without_self : (session.without gone).task? gone = none := by
  unfold task? without
  rw [List.find?_eq_none]
  intro task member
  have kept := (List.mem_filter.mp member).2
  simpa using kept

theorem without_enqueue {job : Job} (other : job ≠ .resume gone) :
    (session.enqueue job).without gone = (session.without gone).enqueue job := by
  unfold enqueue without
  simp [List.filter_append, other]

theorem without_updateTask (task : Task) :
    (session.updateTask task).without gone = (session.without gone).updateTask task := by
  unfold updateTask without
  simp only
  rw [filter_map_tasks (fun ticket => ticket ≠ gone) _ (updatedTask_ticket task)]

theorem without_withdraw (uri : String) :
    (session.withdraw uri).without gone = (session.without gone).withdraw uri := by
  have same : (session.without gone).store.get? uri = session.store.get? uri := rfl
  rw [withdraw_eq, withdraw_eq, same]
  cases session.store.get? uri with
  | none => rfl
  | some document =>
    unfold without
    simp only
    rw [filter_map_tasks (fun ticket => ticket ≠ gone) _ (withdrawnTask_ticket uri document)]

private theorem without_resumeAll (ticket : Ticket) :
    (session.resumeAll ticket).without gone = (session.without gone).resumeAll ticket := by
  have resumed := filter_map_resume (fun named => named ≠ gone) (fun job => job ≠ .resume gone)
    (by simp) ticket session.tasks
  unfold resumeAll without
  simp only [List.filter_append]
  rw [resumed]

private theorem without_askFor (uri : String) :
    (session.askFor uri).2.without gone = ((session.without gone).askFor uri).2 := by
  change (enqueue { session with
    requests := _, tickets := _, cache := _ } (.send (session.nextTicket uri))).without gone = _
  rw [without_enqueue _ gone (by simp)]
  rfl

private theorem without_taking {job : Job} :
    (session.taking job).without gone = (session.without gone).taking job := by
  unfold taking without
  simp only
  rw [List.erase_filter]

theorem without_startTask {uri : String} (purpose : Purpose)
    (other : session.nextTicket uri ≠ gone) :
    (session.startTask uri purpose).2.without gone =
      ((session.without gone).startTask uri purpose).2 := by
  have kept : [Task.mk (session.nextTicket uri) purpose .created false].filter (·.ticket ≠ gone) =
      [Task.mk (session.nextTicket uri) purpose .created false] := by
    simp [other]
  change (enqueue { (session.issue uri).2 with
    tasks := session.tasks ++ [Task.mk (session.nextTicket uri) purpose .created false] }
      (.start (session.nextTicket uri))).without gone = _
  rw [without_enqueue _ gone (by simp)]
  unfold without
  simp only [List.filter_append, kept]
  rfl

end Silent

/-- A session without the task has what is kept of every document. -/
def Projection.without (gone : Ticket) : Projection where
  part session := session.without gone
  covers _ := True
  keeps job := job ≠ .resume gone
  twice session := session.without_without gone
  client _ := rfl
  rule _ := rfl
  hasPlugins _ := rfl
  transport _ := rfl
  timeout _ := rfl
  stored _ _ _ := rfl
  request _ _ _ := rfl
  entered _ _ _ := rfl
  cached _ _ _ := rfl
  next _ _ _ := rfl
  emits _ session := (session.without_without gone).symm
  fails transport session := (Session.without_without { session with transport } gone).symm
  counts number session :=
    (Session.without_without { session with taken := session.taken + number } gone).symm
  greets client session := (Session.without_without { session with
    client := _, store := _, cache := _, hooks := _ } gone).symm
  retirement _ := by simp
  queues session _ other := session.without_enqueue gone other
  changes session task := session.without_updateTask gone task
  drops session ticket := by
    unfold Session.without
    simp only
    rw [List.filter_comm]
  moves _ _ _ := rfl
  resumes session ticket := session.without_resumeAll gone ticket
  asks session uri _ := session.without_askFor gone uri
  forgets _ _ _ := rfl
  retires _ _ := rfl

theorem without_cancelTask (session : Session) (gone : Ticket) {ticket : Ticket}
    (apart : ticket = gone → session.task? gone = none) :
    (session.cancelTask ticket).without gone = (session.without gone).cancelTask ticket := by
  by_cases same : ticket = gone
  · have absent := apart same
    subst same
    unfold cancelTask
    rw [absent, task?_without_self]
  · exact (Projection.without gone).cancelTask session (show Job.resume ticket ≠ .resume gone by simpa)
      (session.task?_without gone same)

section Standing

variable {session : Session} {gone : Ticket} {id : RequestId} {request : Ticket}

/-- The task is no push, so it is not the one under way for its document. -/
theorem Aside.unentered (aside : session.Aside gone id request) (wired : session.Wired) {uri : String}
    {ticket : Ticket} (entered : session.validating.get? uri = some ticket) :
    ticket = gone → session.task? gone = none := by
  rintro rfl
  cases found : session.task? ticket with
  | none => rfl
  | some task =>
    have named := ticket_of_task? found
    have push := (wired.entered_pushes uri ticket entered).2 task (mem_of_task? found) named
    have answers := (aside.waits task (mem_of_task? found) named).1
    rw [push] at answers
    cases answers

theorem Aside.nextTicket_ne (aside : session.Aside gone id request) (uri : String) :
    session.nextTicket uri ≠ gone := by
  rintro rfl
  exact absurd aside.issued (Nat.lt_irrefl _)

theorem Aside.cancelValidation (aside : session.Aside gone id request) (wired : session.Wired)
    (uri : String) :
    (session.cancelValidation uri).without gone = (session.without gone).cancelValidation uri := by
  have same : (session.without gone).validating = session.validating := rfl
  unfold Session.cancelValidation
  rw [same]
  cases entered : session.validating.get? uri with
  | none => rfl
  | some ticket =>
    exact without_cancelTask { session with validating := session.validating.erase uri } gone
      (aside.unentered wired entered)

theorem Aside.schedule (aside : session.Aside gone id request) (wired : session.Wired)
    (uri : String) :
    (session.schedule uri).without gone = (session.without gone).schedule uri := by
  have cancelled := aside.cancelValidation wired uri
  have next : (session.cancelValidation uri).nextTicket uri ≠ gone := by
    rw [cancelValidation_frame]
    exact aside.nextTicket_ne uri
  have started := without_startTask (session.cancelValidation uri) gone .push next
  rw [cancelled] at started
  have validating : (session.cancelValidation uri).validating =
      ((session.without gone).cancelValidation uri).validating := by
    rw [← cancelled]
    rfl
  have named : (session.cancelValidation uri).nextTicket uri =
      ((session.without gone).cancelValidation uri).nextTicket uri := by
    rw [← cancelled]
    rfl
  have entered (later : Session) (table : Table Ticket) :
      { later with validating := table }.without gone =
        { later.without gone with validating := table } := rfl
  change { ((session.cancelValidation uri).startTask uri .push).2 with
    validating := (session.cancelValidation uri).validating.set uri
      ((session.cancelValidation uri).nextTicket uri) }.without gone = _
  rw [entered, started, validating, named]
  rfl

end Standing

section Running

variable {session : Session} {gone : Ticket} {id : RequestId} {request : Ticket}

/-- The task has begun, so its first turn is over. -/
theorem Aside.runStart (aside : session.Aside gone id request) (ticket : Ticket) :
    (session.runStart ticket).without gone = ((session.without gone).runStart ticket).without gone := by
  by_cases same : ticket = gone
  · subst same
    unfold Session.runStart
    rw [task?_without_self, without_without]
    cases found : session.task? ticket with
    | none => rfl
    | some task =>
      have waits := (aside.waits task (mem_of_task? found) (ticket_of_task? found)).2
      obtain ⟨subject, version, stage⟩ := waitsFor_iff.mp waits
      simp only [stage]
  · exact (Projection.without gone).runStart trivial (session.task?_without gone same)
      fun _ _ _ _ => trivial

private theorem runResume_without {ticket : Ticket} (other : ticket ≠ gone) :
    (session.runResume ticket).without gone =
      ((session.without gone).runResume ticket).without gone :=
  (Projection.without gone).runResume trivial (session.task?_without gone other)
    fun _ _ _ _ _ _ => trivial

/-- All that the task can do is end, if it was cancelled. -/
theorem Aside.runResume (aside : session.Aside gone id request) :
    (session.runResume gone).without gone = session.without gone := by
  unfold Session.runResume
  cases found : session.task? gone with
  | none => rfl
  | some task =>
    have named := ticket_of_task? found
    obtain ⟨answers, waits⟩ := aside.waits task (mem_of_task? found) named
    obtain ⟨subject, version, stage⟩ := waitsFor_iff.mp waits
    simp only [stage, aside.unsettled]
    split
    · rw [answer_eq_emitAll]
      refine ((Projection.without gone).endTask trivial _).trans ?_
      have ended : (session.without gone).endTask task = session.without gone := by
        unfold Session.endTask
        cases purpose : task.purpose with
        | push =>
          rw [purpose] at answers
          cases answers
        | _ => simp [without, named]
      exact ended
    · rfl

/-- A job does the same with and without the task. -/
theorem Aside.run (aside : session.Aside gone id request) (job : Job) :
    (session.run job).without gone = ((session.without gone).run job).without gone := by
  have taking : (session.taking job).Aside gone id request :=
    ⟨aside.issued, aside.waits, aside.unsettled⟩
  by_cases own : job = .resume gone
  · subst own
    have absent : .resume gone ∉ (session.without gone).ready := by simp [without]
    rw [run_of_not_ready _ absent, without_without]
    by_cases ready : .resume gone ∈ session.ready
    · rw [session.perform_taking ready]
      change ((session.taking (.resume gone)).runResume gone).without gone = _
      rw [taking.runResume, without_taking]
      unfold Session.taking
      rw [List.erase_of_not_mem absent]
    · rw [run_of_not_ready session ready]
  · have listed : job ∈ (session.without gone).ready ↔ job ∈ session.ready := by
      simp [without, own]
    by_cases ready : job ∈ session.ready
    · rw [session.perform_taking ready, perform_taking _ (listed.mpr ready), ← without_taking]
      cases job with
      | start ticket => exact taking.runStart ticket
      | resume ticket => exact runResume_without (by simpa using own)
      | send ticket => exact (Projection.without gone).sendRequest _ trivial
      | deliver ticket => exact (Projection.without gone).deliverReply _ trivial
      | retire ticket => exact (Projection.without gone).runRetire trivial _
    · rw [run_of_not_ready session ready, run_of_not_ready _ (mt listed.mp ready), without_without]

end Running

section Keeping

variable {session later : Session} {event : Event} {gone : Ticket} {id : RequestId} {request : Ticket}

theorem Aside.move {uri : String} (aside : session.Aside gone id request) (wired : session.Wired)
    (move : Move event uri session later) (unsettled : later.outcome? request = none) :
    later.Aside gone id request := by
  refine ⟨Nat.lt_of_lt_of_le aside.issued (move.issued gone.uri), ?_, unsettled⟩
  intro task member named
  cases move.origin wired member with
  | kept _ held => exact aside.waits task held named
  | cancelled held old => exact aside.waits held old named
  | waits held awaited version old here starts new =>
    obtain ⟨_, waits⟩ := aside.waits held old named
    obtain ⟨_, _, stage⟩ := waitsFor_iff.mp waits
    rw [new] at stage
    cases stage
  | asked => exact absurd named (aside.nextTicket_ne uri)
  | scheduled => exact absurd named (aside.nextTicket_ne uri)

/-- The task stays as it is until the request is settled. -/
theorem Aside.moves (aside : session.Aside gone id request) (wired : session.Wired)
    (moves : AnyMoves event session later) :
    later.Aside gone id request ∨ ∃ outcome, later.outcome? request = some outcome := by
  refine wired.keep moves
    (fun later => later.Aside gone id request ∨ ∃ outcome, later.outcome? request = some outcome)
    (.inl aside) ?_
  rintro uri first second wired move (aside | ⟨outcome, settled⟩)
  · cases reached : second.outcome? request with
    | none => exact .inl (aside.move wired move reached)
    | some outcome => exact .inr ⟨outcome, rfl⟩
  · exact .inr ⟨outcome, (move.requested wired).outcome settled⟩

theorem Aside.calm_moves (aside : session.Aside gone id request) (wired : session.Wired)
    (calm : ∀ uri, ¬ event.RunsFor uri) (silent : ∀ request reply, event ≠ .reply request reply)
    (moves : AnyMoves event session later) : later.Aside gone id request := by
  refine wired.keep moves (fun later => later.Aside gone id request) aside ?_
  intro uri first second wired move aside
  apply aside.move wired move
  rw [outcome?_of_requests (move.evicts calm silent).1]
  exact aside.unsettled

theorem Aside.change (aside : session.Aside gone id request) (change : session.Change event later) :
    later.Aside gone id request := by
  refine ⟨?_, ?_, ?_⟩
  · unfold Session.issued
    rw [change.tickets]
    exact aside.issued
  · intro task member named
    rcases change.task member with ⟨held, _⟩ | ⟨document, held, before, _, _, rfl⟩
    · exact aside.waits task held named
    · rw [waitsFor_withdraw]
      exact aside.waits held before named
  · rw [outcome?_of_requests change.requests]
    exact aside.unsettled

theorem Aside.step (aside : session.Aside gone id request) (wired : session.Wired) (event : Event) :
    (session.step event).Aside gone id request ∨
      ∃ outcome, (session.step event).outcome? request = some outcome := by
  obtain ⟨middle, change, moves⟩ := wired.change_step event
  exact (aside.change change).moves (wired.change change) moves

end Keeping

/-- Two sessions agree on tasks and requests and on what refers to them. -/
structure SameBooks (session later : Session) : Prop where
  tasks : later.tasks = session.tasks
  requests : later.requests = session.requests
  tickets : later.tickets = session.tickets
  cache : later.cache = session.cache
  validating : later.validating = session.validating
  ready : later.ready = session.ready

private theorem SameBooks.wired {session later : Session} (books : session.SameBooks later)
    (wired : session.Wired) : later.Wired :=
  wired.congr books.tasks books.requests books.tickets (by rw [books.cache]) books.validating books.ready

private theorem SameBooks.aside {session later : Session} {gone : Ticket} {id : RequestId} {request : Ticket}
    (books : session.SameBooks later) (aside : session.Aside gone id request) :
    later.Aside gone id request := by
  refine ⟨?_, ?_, ?_⟩
  · unfold Session.issued
    rw [books.tickets]
    exact aside.issued
  · rw [books.tasks]
    exact aside.waits
  · rw [outcome?_of_requests books.requests]
    exact aside.unsettled

/-- Two sessions that differ in the task only. -/
structure Alike (gone : Ticket) (id : RequestId) (request : Ticket) (left right : Session) : Prop where
  same : left.without gone = right.without gone
  left_wired : left.Wired
  right_wired : right.Wired
  left_aside : left.Aside gone id request
  right_aside : right.Aside gone id request

namespace Alike

variable {left right : Session} {gone : Ticket} {id : RequestId} {request : Ticket}

/-- An operation that does the same with and without the task does the same to both. -/
theorem congr (alike : Alike gone id request left right) (operation : Session → Session)
    (first : (operation left).without gone = (operation (left.without gone)).without gone)
    (second : (operation right).without gone = (operation (right.without gone)).without gone) :
    (operation left).without gone = (operation right).without gone := by
  rw [first, second, alike.same]

theorem store (alike : Alike gone id request left right) : left.store = right.store := by
  have same := congrArg Session.store alike.same
  exact same

theorem hooks (alike : Alike gone id request left right) : left.hooks = right.hooks := by
  have same := congrArg Session.hooks alike.same
  exact same

private theorem requests (alike : Alike gone id request left right) : left.requests = right.requests := by
  have same := congrArg Session.requests alike.same
  exact same

/-- The sessions stay alike under what leaves tasks, jobs and requests alone. -/
theorem update (alike : Alike gone id request left right) {first second : Session}
    (same : first.without gone = second.without gone) {event : Event}
    (left_change : left.Change event first) (right_change : right.Change event second) :
    Alike gone id request first second :=
  ⟨same, alike.left_wired.change left_change, alike.right_wired.change right_change,
    alike.left_aside.change left_change, alike.right_aside.change right_change⟩

private theorem of_exact (alike : Alike gone id request left right) (operation : Session → Session)
    (first : (operation left).without gone = operation (left.without gone))
    (second : (operation right).without gone = operation (right.without gone)) :
    (operation left).without gone = (operation right).without gone := by
  rw [first, second, alike.same]

/-- The sessions stay alike under what changes neither tasks nor requests. -/
theorem keep (alike : Alike gone id request left right) {first second : Session}
    (same : first.without gone = second.without gone) (left_books : left.SameBooks first)
    (right_books : right.SameBooks second) : Alike gone id request first second :=
  ⟨same, left_books.wired alike.left_wired, right_books.wired alike.right_wired,
    left_books.aside alike.left_aside, right_books.aside alike.right_aside⟩

theorem emit (alike : Alike gone id request left right) (effect : Effect) :
    Alike gone id request (left.emit effect) (right.emit effect) :=
  alike.keep alike.same ⟨rfl, rfl, rfl, rfl, rfl, rfl⟩ ⟨rfl, rfl, rfl, rfl, rfl, rfl⟩

end Alike

section Notices

variable {session : Session} {gone : Ticket} {id : RequestId} {request : Ticket}

/-- A hook does the same with and without the task. -/
theorem Aside.notify (aside : session.Aside gone id request) (wired : session.Wired)
    (notice : DocumentEvent) (uri : String) (hook : Hook) :
    (Session.notify notice uri session hook).without gone =
      (Session.notify notice uri (session.without gone) hook).without gone := by
  have called (later : Session) : (Session.notify notice uri later hook).without gone =
      (later.callHook notice uri hook).2.without gone := by
    unfold Session.notify
    split
    · next same => rw [same]
    · next same =>
      rw [same]
      rfl
  rw [called, called]
  have scheduled : (session.schedule uri).without gone =
      ((session.without gone).schedule uri).without gone := by
    rw [← aside.schedule wired uri, without_without]
  cases hook with
  | eviction => exact (without_without (session.evict uri) gone).symm
  | external name fault => exact (session.without_without gone).symm
  | validation =>
    cases notice with
    | opened => exact scheduled
    | changed => exact scheduled
    | closed =>
      have published : ((session.cancelValidation uri).publish (closeNotice uri)).2.without gone =
          (((session.cancelValidation uri).without gone).publish (closeNotice uri)).2.without gone :=
        (Projection.without gone).publish _ _
      rw [aside.cancelValidation wired uri] at published
      exact published

/-- All the hooks of a notice do the same to two sessions that are alike. -/
theorem Alike.notifyAll {left right : Session} (alike : Alike gone id request left right) {event : Event}
    {notice : DocumentEvent} {uri : String} (hooks : List Hook)
    (listed : ∀ hook ∈ hooks, hook ∈ left.hooks.of notice)
    (notified : event.notifies notice uri = true)
    (absent : notice = .closed → left.store.get? uri = none) :
    (hooks.foldl (Session.notify notice uri) left).without gone =
      (hooks.foldl (Session.notify notice uri) right).without gone := by
  induction hooks generalizing left right with
  | nil => exact alike.same
  | cons hook rest step =>
    have silent (request : Ticket) (reply : Reply) : event ≠ .reply request reply := by
      rintro rfl
      cases notified
    have calm := Event.calm_of_notifies notified
    have own := listed hook List.mem_cons_self
    have first := (left.moves_notify notice uri hook own notified absent).any
    have second := (right.moves_notify notice uri hook (alike.hooks ▸ own) notified
      (alike.store ▸ absent)).any
    have next : Alike gone id request (Session.notify notice uri left hook)
        (Session.notify notice uri right hook) :=
      ⟨alike.congr (Session.notify notice uri · hook) (alike.left_aside.notify alike.left_wired notice uri hook)
          (alike.right_aside.notify alike.right_wired notice uri hook),
        alike.left_wired.moves first, alike.right_wired.moves second,
        alike.left_aside.calm_moves alike.left_wired calm silent first,
        alike.right_aside.calm_moves alike.right_wired calm silent second⟩
    refine step next ?_ ?_
    · rw [first.sameGround.hooks]
      exact fun other member => listed other (List.mem_cons_of_mem _ member)
    · rw [first.sameGround.store]
      exact absent

theorem Alike.broadcast {left right : Session} (alike : Alike gone id request left right) (event : Event)
    {notice : DocumentEvent} {uri : String} (notified : event.notifies notice uri = true)
    (absent : notice = .closed → left.store.get? uri = none) :
    (left.broadcast notice uri).without gone = (right.broadcast notice uri).without gone := by
  unfold Session.broadcast
  rw [← alike.hooks]
  exact alike.notifyAll _ (fun _ member => member) notified absent

private theorem Alike.opened {left right : Session} (alike : Alike gone id request left right)
    (uri text : String) (version : Version) (language : Json) :
    (left.step (.opened uri text version language)).without gone =
      (right.step (.opened uri text version language)).without gone := by
  rw [step_opened, step_opened]
  cases wellFormed : Uri.check uri with
  | error fault => exact alike.same
  | ok _ =>
    have withdrawn : (left.withdraw uri).without gone = (right.withdraw uri).without gone := by
      rw [without_withdraw, without_withdraw, alike.same]
    have same : (left.afterOpening uri text version.value language).without gone =
        (right.afterOpening uri text version.value language).without gone := by
      unfold afterOpening
      rw [← alike.store]
      exact congrArg (fun session : Session => { session with
        store := left.store.updated uri (left.store.newDocument uri text version.value language) })
        withdrawn
    have next := (alike.update same (.opened uri text version language wellFormed)
      (.opened uri text version language wellFormed)).emit (.log .info
        ("Document opened: " ++ uri ++ " (version " ++ version.value.plain ++ ")"))
    exact next.broadcast (.opened uri text version language) (by simp [Event.notifies]) (by simp)

private theorem Alike.closed {left right : Session} (alike : Alike gone id request left right)
    (uri : String) :
    (left.step (.closed uri)).without gone = (right.step (.closed uri)).without gone := by
  have withdrawn : (left.withdraw uri).without gone = (right.withdraw uri).without gone := by
    rw [without_withdraw, without_withdraw, alike.same]
  have same : (left.closeDocument uri).without gone = (right.closeDocument uri).without gone := by
    unfold closeDocument
    simp only [store_withdraw]
    rw [← alike.store]
    exact congrArg (fun session : Session => { session with store := left.store.closed uri }) withdrawn
  have next := (alike.update same (.closed uri) (.closed uri)).emit
    (.log .info ("Document closed: " ++ uri))
  refine next.broadcast (.closed uri) (by simp [Event.notifies]) fun _ => ?_
  change (left.closeDocument uri).store.get? uri = none
  rw [get?_closeDocument, if_pos rfl]

theorem step_changed_eq (session : Session) (uri : String) (version : Version)
    (edits : List Text.Edit) :
    session.step (.changed uri version edits) =
      match session.store.changed uri version.value edits with
      | .error _ => session
      | .ok (store, none) => { session with store }.log .log
          ("Ignoring change for " ++ uri ++ " (version " ++ version.value.plain ++ ")")
      | .ok (store, some _) => { session with store }.broadcast .changed uri := by
  change (session.attempt (session.didChange uri version.value edits)).2 = _
  unfold didChange changeDocument
  cases session.store.changed uri version.value edits with
  | error fault => rfl
  | ok result =>
    obtain ⟨store, document⟩ := result
    cases document <;> rfl

private theorem Alike.changed {left right : Session} (alike : Alike gone id request left right) (uri : String)
    (version : Version) (edits : List Text.Edit) :
    (left.step (.changed uri version edits)).without gone =
      (right.step (.changed uri version edits)).without gone := by
  have stored (store : Store) :
      Alike gone id request { left with store } { right with store } :=
    alike.keep (congrArg (fun session : Session => { session with store }) alike.same)
      ⟨rfl, rfl, rfl, rfl, rfl, rfl⟩ ⟨rfl, rfl, rfl, rfl, rfl, rfl⟩
  rw [step_changed_eq, step_changed_eq, ← alike.store]
  cases left.store.changed uri version.value edits with
  | error fault => exact alike.same
  | ok result =>
    obtain ⟨store, document⟩ := result
    cases document with
    | none => exact (stored store).same
    | some document =>
      exact (stored store).broadcast (.changed uri version edits) (by simp [Event.notifies]) (by simp)

end Notices

section Events

variable {session : Session} {gone : Ticket} {id : RequestId} {request : Ticket}

private theorem Aside.schedules (aside : session.Aside gone id request) (wired : session.Wired)
    (uris : List String) :
    (uris.foldl Session.schedule session).without gone =
      uris.foldl Session.schedule (session.without gone) := by
  induction uris generalizing session with
  | nil => rfl
  | cons uri rest step =>
    have calm (other : String) : ¬ (Event.schedule uri).RunsFor other := by
      rintro ⟨job, same, _⟩
      cases same
    have moves : AnyMoves (.schedule uri) session (session.schedule uri) :=
      .single ⟨uri, .schedule (calm uri)⟩
    have next := aside.calm_moves wired calm (by simp) moves
    simp only [List.foldl_cons]
    rw [step next (wired.schedule uri), aside.schedule wired uri]

private theorem Alike.schedules {left right : Session} (alike : Alike gone id request left right)
    (uris : List String) :
    (uris.foldl Session.schedule left).without gone =
      (uris.foldl Session.schedule right).without gone := by
  rw [alike.left_aside.schedules alike.left_wired, alike.right_aside.schedules alike.right_wired,
    alike.same]

private theorem Alike.refreshDiagnostics {left right : Session} (alike : Alike gone id request left right) :
    left.refreshDiagnostics.without gone = right.refreshDiagnostics.without gone := by
  have client : left.refreshesClient = right.refreshesClient := by
    have same := congrArg Session.refreshesClient alike.same
    exact same
  have transport : left.transport = right.transport := by
    have same := congrArg Session.transport alike.same
    exact same
  have refreshes : left.refreshes = right.refreshes := by
    have same := congrArg Session.refreshes alike.same
    exact same
  rw [refreshDiagnostics_eq, refreshDiagnostics_eq, ← client, ← transport, ← alike.store]
  split
  · split
    · next fault _ =>
      unfold unrefreshed
      rw [← transport]
      exact congrArg (fun session : Session =>
        { session with transport := { left.transport with refreshFault := none } }) alike.same
    · have next : Alike gone id request left.refreshing right.refreshing := by
        refine alike.keep ?_ ⟨rfl, rfl, rfl, rfl, rfl, rfl⟩ ⟨rfl, rfl, rfl, rfl, rfl, rfl⟩
        unfold refreshing
        rw [← refreshes]
        exact congrArg (fun session : Session =>
          { session with refreshes := left.refreshes + 1 }) alike.same
      exact next.schedules _
  · exact alike.schedules _

private theorem Alike.configured {left right : Session} (alike : Alike gone id request left right)
    (payload : Json) :
    (left.step (.configured payload)).without gone =
      (right.step (.configured payload)).without gone := by
  have cache : left.cache = right.cache := by
    have same := congrArg Session.cache alike.same
    exact same
  have client : left.asksClient = right.asksClient := by
    have same := congrArg Session.asksClient alike.same
    exact same
  have plugins : left.hasPlugins = right.hasPlugins := by
    have same := congrArg Session.hasPlugins alike.same
    exact same
  have validated {first second : Session} (next : Alike gone id request first second)
      (given : first.hasPlugins = second.hasPlugins) :
      (if first.hasPlugins then (Answer.nothing, first.refreshDiagnostics)
          else (.fault (.componentMissing "refresh_diagnostics"), first)).2.without gone =
        (if second.hasPlugins then (Answer.nothing, second.refreshDiagnostics)
          else (.fault (.componentMissing "refresh_diagnostics"), second)).2.without gone := by
    rw [← given]
    split
    · exact next.refreshDiagnostics
    · exact next.same
  change (left.configure payload).2.without gone = (right.configure payload).2.without gone
  unfold Session.configure dropSettings
  rw [← cache, ← client]
  split
  · exact alike.same
  · cases asks : left.asksClient with
    | true =>
      refine validated (alike.update ?_ (.cleared payload asks) (.cleared payload (client ▸ asks))) plugins
      exact congrArg Session.clearEntries alike.same
    | false =>
      unfold updateGlobal
      cases valid : Settings.ofPayload payload with
      | error fault => exact alike.same
      | ok settings =>
        refine validated (alike.update ?_ (.shared payload settings asks valid)
          (.shared payload settings (client ▸ asks) valid)) plugins
        exact congrArg (fun session : Session => { session with
          cache := session.cache.map fun cache : Cache => { cache with global := settings } }) alike.same

private theorem Aside.cancelRequest (aside : session.Aside gone id request)
    {other : RequestId} (apart : other ≠ id) :
    (session.cancelRequest other).2.without gone = ((session.without gone).cancelRequest other).2 := by
  have found : (session.without gone).tasks.reverse.find? (·.purpose.requestId? == some other) =
      session.tasks.reverse.find? (·.purpose.requestId? == some other) := by
    unfold without
    simp only
    rw [← List.filter_reverse, List.find?_filter]
    apply List.find?_congr
    intro task member
    by_cases own : task.ticket = gone
    · have answers := (aside.waits task (List.mem_reverse.mp member) own).1
      simp [own, answers, Ne.symm apart]
    · rw [Bool.eq_iff_iff]
      simp [own]
  unfold Session.cancelRequest
  rw [found]
  cases chosen : session.tasks.reverse.find? (·.purpose.requestId? == some other) with
  | none => rfl
  | some task =>
    refine without_cancelTask session gone fun own => ?_
    have member : task ∈ session.tasks := List.mem_reverse.mp (List.mem_of_find?_eq_some chosen)
    have named : task.purpose.requestId? = some other := by
      simpa only [beq_iff_eq] using List.find?_some chosen
    rw [(aside.waits task member own).1] at named
    exact absurd (Option.some.inj named).symm apart

private theorem without_handIn (session : Session) (gone request : Ticket) (reply : Reply) :
    (session.handIn request reply).2.without gone = ((session.without gone).handIn request reply).2 := by
  have same : (session.without gone).outstanding = session.outstanding := rfl
  unfold handIn
  rw [same]
  split
  · exact without_enqueue (session.updateRequest request (.answered reply)) gone (by simp)
  · rfl

private theorem Aside.ask (aside : session.Aside gone id request) (uri : String) (purpose : Purpose) :
    (session.ask uri purpose).2.without gone = ((session.without gone).ask uri purpose).2 := by
  have cache : (session.without gone).cache = session.cache := rfl
  unfold Session.ask
  rw [cache]
  split
  · rfl
  · exact without_startTask session gone _ (aside.nextTicket_ne uri)

private theorem respects_takeRefreshReply (gone : Ticket) (reply : RefreshReply) :
    Respects (·.without gone) (·.takeRefreshReply reply |>.2) := by
  intro session
  have count : (session.without gone).refreshes = session.refreshes := rfl
  simp only [Session.takeRefreshReply, count]
  split
  · exact (session.without_without gone).symm
  · cases reply <;>
      exact (without_without { session with refreshes := session.refreshes - 1 } gone).symm

theorem step_storeChanged_eq (session : Session) (uri : String) (version : Json)
    (edits : List Text.Edit) :
    session.step (.storeChanged uri version edits) =
      match session.store.changed uri version edits with
      | .error _ => session
      | .ok (store, _) => { session with store } := by
  simp only [Session.step, Session.handle, changeDocument]
  cases session.store.changed uri version edits <;> rfl

private theorem Alike.storeChanged {left right : Session} (alike : Alike gone id request left right)
    (uri : String) (version : Json) (edits : List Text.Edit) :
    (left.step (.storeChanged uri version edits)).without gone =
      (right.step (.storeChanged uri version edits)).without gone := by
  rw [step_storeChanged_eq, step_storeChanged_eq, ← alike.store]
  cases left.store.changed uri version edits with
  | error fault => exact alike.same
  | ok result =>
    exact congrArg (fun session : Session => { session with store := result.1 }) alike.same

private theorem Alike.evict {left right : Session} (alike : Alike gone id request left right) (uri : String) :
    (left.step (.evict uri)).without gone = (right.step (.evict uri)).without gone := by
  have cache : left.cache = right.cache := by
    have same := congrArg Session.cache alike.same
    exact same
  simp only [Session.step, Session.handle, ← cache]
  split
  · exact alike.same
  · exact congrArg (Session.evict · uri) alike.same

/-- Whatever happens to two sessions that are alike does the same to both, unless it cancels the
task. -/
theorem Alike.step {left right : Session} (alike : Alike gone id request left right) (event : Event)
    (other : event ≠ .cancel id) :
    (left.step event).without gone = (right.step event).without gone := by
  cases event with
  | opened uri text version language => exact alike.opened uri text version language
  | changed uri version edits => exact alike.changed uri version edits
  | closed uri => exact alike.closed uri
  | configured payload => exact alike.configured payload
  | run job => exact alike.congr (·.run job) (alike.left_aside.run job) (alike.right_aside.run job)
  | handshake client =>
    exact ((Projection.without gone).shakeHands client).congr alike.same
  | clientReady refusal =>
    exact ((Projection.without gone).registerForChanges refusal).congr alike.same
  | foldersChanged => exact alike.same
  | filesChanged count => exact alike.same
  | complete completion => exact alike.same
  | resolve item =>
    exact ((Projection.without gone).resolve item).congr alike.same
  | ask uri purpose answered =>
    exact alike.of_exact (·.ask uri purpose |>.2) (alike.left_aside.ask uri purpose)
      (alike.right_aside.ask uri purpose)
  | cancel named =>
    have apart : named ≠ id := by
      rintro rfl
      exact other rfl
    exact alike.of_exact (·.cancelRequest named |>.2) (alike.left_aside.cancelRequest apart)
      (alike.right_aside.cancelRequest apart)
  | reply named reply =>
    exact alike.of_exact (·.handIn named reply |>.2) (left.without_handIn gone named reply)
      (right.without_handIn gone named reply)
  | refreshReply reply =>
    exact (respects_takeRefreshReply gone reply).congr alike.same
  | storeChanged uri version edits => exact alike.storeChanged uri version edits
  | evict uri => exact alike.evict uri
  | schedule uri =>
    exact alike.of_exact (·.schedule uri) (alike.left_aside.schedule alike.left_wired uri)
      (alike.right_aside.schedule alike.right_wired uri)
  | cancelValidation uri =>
    exact alike.of_exact (·.cancelValidation uri)
      (alike.left_aside.cancelValidation alike.left_wired uri)
      (alike.right_aside.cancelValidation alike.right_wired uri)
  | useRule rule =>
    exact congrArg (fun session : Session => { session with rule, taken := 0 }) alike.same
  | addHook event hook =>
    exact congrArg (fun session : Session =>
      { session with hooks := session.hooks.add hook event }) alike.same
  | failNextPublish fault =>
    exact congrArg (fun session : Session => { session with
      transport := { session.transport with publishFault := some fault } }) alike.same
  | failNextRefresh fault =>
    exact congrArg (fun session : Session => { session with
      transport := { session.transport with refreshFault := some fault } }) alike.same

/-- Until the request is settled the sessions stay alike; then it has the same outcome in both. -/
theorem Alike.runAll {left right : Session} (alike : Alike gone id request left right)
    {events : List Event} (others : .cancel id ∉ events) :
    (left.runAll events).requestState? request = (right.runAll events).requestState? request := by
  induction events generalizing left right with
  | nil => exact requestState?_of_requests alike.requests request
  | cons event rest step =>
    have same := alike.step event fun cancels => others (cancels ▸ List.mem_cons_self)
    have remaining : .cancel id ∉ rest := fun member => others (List.mem_cons_of_mem _ member)
    have requests : (left.step event).requests = (right.step event).requests := by
      have fields := congrArg Session.requests same
      exact fields
    have left_wired := alike.left_wired.step event
    have right_wired := alike.right_wired.step event
    cases reached : (left.step event).outcome? request with
    | some outcome =>
      -- the two may part now, but what the request has led to is final in both
      have matched : (right.step event).outcome? request = some outcome := by
        rw [← outcome?_of_requests requests, reached]
      have first := outcome?_eq_some.mp (left_wired.outcome_runAll rest reached)
      have second := outcome?_eq_some.mp (right_wired.outcome_runAll rest matched)
      exact first.trans second.symm
    | none =>
      have matched : (right.step event).outcome? request = none := by
        rw [← outcome?_of_requests requests, reached]
      refine step ⟨same, left_wired, right_wired, ?_, ?_⟩ remaining
      · rcases alike.left_aside.step alike.left_wired event with aside | ⟨outcome, settled⟩
        · exact aside
        · cases reached.symm.trans settled
      · rcases alike.right_aside.step alike.right_wired event with aside | ⟨outcome, settled⟩
        · exact aside
        · cases matched.symm.trans settled

end Events

section Cancelling

variable {session : Session} {task : Task} {id : RequestId} {request : Ticket}

end Cancelling

end Session

end HazeServer
