import HazeServer.Proofs.Session.Entries
import HazeServer.Proofs.Session.Publishing
import HazeServer.Proofs.Table
import Mathlib.Data.List.Nodup

/-! # The table of pushes under way

A push is entered in the table when it is scheduled, and leaves it when it is taken back or retired. It
is retired some time after it has ended, so an entry may name a push that is over, and a newer push may
take its place before that. The invariant is that every entry is accounted for: its push is neither over
nor cancelled, or it is over and its retirement is due. Tickets are never issued twice, so a push that
has left the table does not come back, and what it still does leaves the table as it is.
-/

namespace HazeServer

/-- Something done to a session: an event, or a call to validate all open documents anew. -/
inductive Act where
  | event (event : Event)
  | refresh

/-- The task that a job gives a turn. -/
def Job.turnOf? : Job → Option Ticket
  | .start ticket | .resume ticket => some ticket
  | _ => none

namespace Session

/-- The session after something was done to it. -/
def act (session : Session) : Act → Session
  | .event event => session.step event
  | .refresh => session.refreshDiagnostics

/-- The session after several things were done to it. -/
def actAll (session : Session) (acts : List Act) : Session :=
  acts.foldl act session

/-- What is said when something is done to a session. -/
def saidBy (session : Session) (act : Act) : List Effect :=
  (session.act act).outbox.drop session.outbox.length

/-- The pushes for a document that have neither ended nor been cancelled. -/
def livePushes (session : Session) (uri : String) : List Task :=
  session.tasks.filter fun task =>
    task.uri = uri ∧ task.purpose = .push ∧ task.cancelled = false

/-- The push that the table names for a document, unless it has ended. -/
def entered? (session : Session) (uri : String) : Option Task :=
  (session.validating.get? uri).bind session.task?

/-- A ticket was issued, and the table does not name it: whatever it was issued for is not the push under
way, or no longer. -/
def Delisted (session : Session) (ticket : Ticket) : Prop :=
  ticket.number < session.issued ticket.uri ∧ session.validating.get? ticket.uri ≠ some ticket

/-- A push is neither over nor cancelled, or its retirement is due. -/
def Accounted (session : Session) (ticket : Ticket) : Prop :=
  (∃ task ∈ session.tasks, task.ticket = ticket ∧ task.purpose = .push ∧ task.cancelled = false) ∨
    .retire ticket ∈ session.ready

/-- Every push that the table names is accounted for. -/
def Tabled (session : Session) : Prop :=
  ∀ uri ticket, session.validating.get? uri = some ticket → session.Accounted ticket

section Entries

variable (session : Session)

theorem get?_cancelValidation (uri other : String) :
    (session.cancelValidation uri).validating.get? other =
      if other = uri then none else session.validating.get? other := by
  rcases session.cancelValidation_cases uri with ⟨absent, same⟩ | ⟨ticket, _, same⟩ <;> rw [same]
  · split
    · next here => rw [here, absent]
    · rfl
  · exact session.validating.get?_erase uri other

/-- A push that is scheduled takes the place of the one in the table. -/
theorem get?_schedule (uri other : String) :
    (session.schedule uri).validating.get? other =
      if other = uri then some (session.nextTicket uri) else session.validating.get? other := by
  have named : (session.cancelValidation uri).nextTicket uri = session.nextTicket uri := by
    rw [cancelValidation_frame]
    rfl
  change ((session.cancelValidation uri).validating.set uri
    ((session.cancelValidation uri).nextTicket uri)).get? other = _
  rw [Table.get?_set, named, get?_cancelValidation]
  split <;> rfl

/-- Only the push that the table names can be retired from it. -/
theorem get?_runRetire (ticket : Ticket) (other : String) :
    (session.runRetire ticket).validating.get? other =
      if other = ticket.uri ∧ session.validating.get? other = some ticket then none
      else session.validating.get? other := by
  unfold runRetire
  split
  · next entry =>
    change (session.validating.erase ticket.uri).get? other = _
    rw [Table.get?_erase]
    by_cases here : other = ticket.uri
    · rw [if_pos here, if_pos ⟨here, here ▸ entry⟩]
    · rw [if_neg here, if_neg fun own => here own.1]
  · next entry =>
    rw [if_neg]
    rintro ⟨rfl, own⟩
    exact entry own

theorem validating_publish (publication : Publication) :
    (session.publish publication).2.validating = session.validating := by
  rw [publish_frame]

theorem validating_endTask (task : Task) :
    (session.endTask task).validating = session.validating := by
  rw [endTask_frame]

private theorem validating_answer (task : Task) (response : Response) :
    (session.answer task response).validating = session.validating := by
  rw [answer_eq_emitAll]
  rfl

theorem validating_settleRequest (ticket : Ticket) (reply : Reply) :
    (session.settleRequest ticket reply).validating = session.validating := by
  rw [settleRequest_frame]
  rfl

end Entries

section Jobs

variable {session : Session}

private theorem validating_learn (session : Session) (request : Ticket) (outcome : Outcome) :
    (session.learn request outcome).2.validating = session.validating := by
  rcases session.learn_cases request outcome with same | ⟨_, same, _⟩ <;> rw [same]
  rfl

private theorem Takes.validating {after : Session} {job : Job} {turn : Turn}
    (takes : session.Takes job turn after) (wired : session.Wired) :
    after.validating = session.validating := by
  cases takes with
  | first task =>
    have spec := wired.lookUp task.uri
    generalize (session.lookUp task.uri).1 = lookup at spec
    generalize (session.lookUp task.uri).2 = later at spec ⊢
    cases spec with
    | learned request outcome => exact session.validating_learn request outcome
    | early => rfl
    | shared => rfl
    | asked => rfl
    | joined => rfl
  | later task request subject version outcome => exact session.validating_learn request outcome

private theorem Takes.turnOf {after : Session} {job : Job} {turn : Turn}
    (takes : session.Takes job turn after) : job.turnOf? = some turn.task.ticket := by
  cases takes <;> rfl

private theorem Turns.validating {later : Session} {job : Job} (turns : session.Turns job later)
    (wired : session.Wired) : later.validating = session.validating := by
  cases turns with
  | idle => rfl
  | dismiss task => rw [validating_endTask, validating_answer]
  | empty task => rw [endEmpty, validating_endTask, validating_answer]
  | turn takes => rw [proceed_frame, takes.validating wired]

/-- A job that retires no push leaves the table as it is. -/
theorem Wired.validating_perform (wired : session.Wired) {job : Job}
    (other : ∀ ticket, job ≠ .retire ticket) : (session.perform job).validating = session.validating := by
  cases job with
  | start ticket => exact (session.turns_runStart ticket).validating wired
  | resume ticket => exact (session.turns_runResume ticket).validating wired
  | send ticket =>
    change (session.sendRequest ticket).validating = _
    unfold sendRequest
    split
    · split
      · exact session.validating_settleRequest ticket _
      · rfl
    · rfl
  | deliver ticket =>
    change (session.deliverReply ticket).validating = _
    unfold deliverReply
    split
    · exact session.validating_settleRequest ticket _
    · rfl
  | retire ticket => exact absurd rfl (other ticket)

/-- An entry outlives every job but the retirement of its own push, which has ended by then. -/
theorem Wired.entry_run (wired : session.Wired) {uri : String} {ticket : Ticket}
    (entry : session.validating.get? uri = some ticket) (job : Job) :
    (session.step (.run job)).validating.get? uri = some ticket ∨
      (job = .retire ticket ∧ session.task? ticket = none) := by
  change (session.run job).validating.get? uri = some ticket ∨ _
  by_cases ready : job ∈ session.ready
  · have taken : (session.taking job).Wired := wired.change (.ran job ready)
    rw [session.perform_taking ready]
    by_cases retires : ∃ other, job = .retire other
    · obtain ⟨other, rfl⟩ := retires
      change ((session.taking (.retire other)).runRetire other).validating.get? uri = _ ∨ _
      by_cases own : other = ticket
      · subst own
        exact .inr ⟨rfl, (wired.retired_ended other ready).1⟩
      · left
        rw [get?_runRetire, if_neg]
        · exact entry
        · rintro ⟨_, same⟩
          exact own (Option.some.inj (same.symm.trans entry))
    · left
      rw [taken.validating_perform fun other same => retires ⟨other, same⟩]
      exact entry
  · left
    rw [run_of_not_ready session ready]
    exact entry

/-- The retirement of a push that the table does not name leaves the table as it is. -/
theorem Delisted.validating_retire {ticket : Ticket} (delisted : session.Delisted ticket) :
    (session.step (.run (.retire ticket))).validating = session.validating := by
  change (session.run (.retire ticket)).validating = session.validating
  unfold run
  split
  · change (runRetire { session with ready := _ } ticket).validating = session.validating
    unfold runRetire
    rw [if_neg delisted.2]
  · rfl

end Jobs

section Moves

variable {session later : Session} {event : Event} {uri : String}

/-- An entry after a move was there before it, or is that of a push that was just scheduled. -/
theorem Move.tabled (move : Move event uri session later) {other : String} {ticket : Ticket}
    (entry : later.validating.get? other = some ticket) :
    session.validating.get? other = some ticket ∨ ticket = session.nextTicket other := by
  have same (table : later.validating = session.validating) :
      session.validating.get? other = some ticket ∨ ticket = session.nextTicket other :=
    .inl (table ▸ entry)
  cases move with
  | schedule =>
    rw [get?_schedule] at entry
    split at entry
    · next here =>
      cases entry
      exact .inr (by rw [here])
    · exact .inl entry
  | takeBack =>
    rw [get?_cancelValidation] at entry
    split at entry
    · cases entry
    · exact .inl entry
  | retire =>
    rw [get?_runRetire] at entry
    split at entry
    · cases entry
    · exact .inl entry
  | push => exact same (session.validating_publish _)
  | notice => exact same (session.validating_publish _)
  | cancel task => exact same (session.validating_cancelTask task.ticket)
  | finish task => exact same (session.validating_endTask task)
  | settle ticket reply => exact same (session.validating_settleRequest ticket reply)
  | tell => exact same rfl
  | answer => exact same rfl
  | count => exact same rfl
  | refresh => exact same rfl
  | begin => exact same rfl
  | wait => exact same rfl
  | ask => exact same rfl
  | evict => exact same rfl
  | sent => exact same rfl
  | receive => exact same rfl

/-- A push stays accounted for if the jobs are kept and the push is not lost without a trace. -/
theorem Accounted.keep {ticket : Ticket} (accounted : session.Accounted ticket)
    (jobs : ∀ job ∈ session.ready, job ∈ later.ready)
    (live : ∀ task ∈ session.tasks, task.ticket = ticket → task.purpose = .push →
      task.cancelled = false → later.Accounted ticket) : later.Accounted ticket := by
  rcases accounted with ⟨task, member, named, push, running⟩ | due
  · exact live task member named push running
  · exact .inr (jobs _ due)

private theorem Tabled.move (tabled : session.Tabled) (wired : session.Wired)
    (move : Move event uri session later) : later.Tabled := by
  have jobs := (KeepsJobs.move move).kept
  have same (tasks : later.tasks = session.tasks) (table : later.validating = session.validating) :
      later.Tabled := by
    intro other ticket entry
    rw [table] at entry
    refine (tabled other ticket entry).keep jobs fun task member named push live => .inl ?_
    exact ⟨task, tasks ▸ member, named, push, live⟩
  -- a push for another document is left alone when the one for this document is taken back
  have apart {other : String} {ticket : Ticket} (elsewhere : other ≠ uri)
      (entry : session.validating.get? other = some ticket)
      (kept : ∀ task ∈ (session.cancelValidation uri).tasks, task ∈ later.tasks) :
      later.Accounted ticket := by
    refine (tabled other ticket entry).keep jobs fun task member named push live => .inl ?_
    refine ⟨task, kept task (mem_cancelValidation_of_ne wired member fun _ here => elsewhere ?_),
      named, push, live⟩
    rw [← wired.validating_named other ticket entry, ← named]
    exact here
  cases move with
  | schedule =>
    intro other ticket entry
    rw [get?_schedule] at entry
    split at entry
    · cases entry
      obtain ⟨task, member, here, push, live⟩ := session.pushPending_schedule uri
      have entered := (wired.schedule uri).pushes_entered task member push live
      rw [here, get?_schedule, if_pos rfl] at entered
      exact .inl ⟨task, member, (Option.some.inj entered).symm, push, live⟩
    · next elsewhere => exact apart elsewhere entry fun _ => List.mem_append_left _
  | takeBack =>
    intro other ticket entry
    rw [get?_cancelValidation] at entry
    split at entry
    · cases entry
    · next elsewhere => exact apart elsewhere entry fun _ => id
  | cancel held id found here answers =>
    intro other ticket entry
    rw [validating_cancelTask] at entry
    refine (tabled other ticket entry).keep jobs fun task member named push live => .inl ?_
    refine ⟨task, mem_cancelTask_of_ne wired member fun own => ?_, named, push, live⟩
    rw [← wired.task_unique member found own, push] at answers
    cases answers
  | finish ended runs found =>
    intro other ticket entry
    rw [validating_endTask] at entry
    refine (tabled other ticket entry).keep jobs fun task member named push live => ?_
    by_cases own : task.ticket = ended.ticket
    · obtain rfl := wired.task_unique member (mem_of_task? found) own
      right
      simp [endTask, push, enqueue, named]
    · left
      refine ⟨task, ?_, named, push, live⟩
      rw [tasks_endTask]
      exact List.mem_filter.mpr ⟨member, by simpa using own⟩
  | wait held request version cache starts found =>
    intro other ticket entry
    refine (tabled other ticket entry).keep jobs fun task member named push live => .inl ?_
    by_cases own : task.ticket = held.ticket
    · obtain rfl := wired.task_unique member (mem_of_task? found) own
      exact ⟨_, List.mem_map.mpr ⟨task, member, if_pos rfl⟩, named, push, live⟩
    · exact ⟨task, List.mem_map.mpr ⟨task, member, if_neg own⟩, named, push, live⟩
  | begin =>
    intro other ticket entry
    refine (tabled other ticket entry).keep jobs fun task member named push live => .inl ?_
    exact ⟨task, List.mem_append_left _ member, named, push, live⟩
  | retire retired =>
    intro other ticket entry
    rw [get?_runRetire] at entry
    split at entry
    · cases entry
    · refine (tabled other ticket entry).keep jobs fun task member named push live => .inl ?_
      exact ⟨task, session.tasks_runRetire retired ▸ member, named, push, live⟩
  | push => exact same (session.tasks_publish _) (session.validating_publish _)
  | notice => exact same (session.tasks_publish _) (session.validating_publish _)
  | settle ticket reply =>
    exact same (session.tasks_settleRequest ticket reply) (session.validating_settleRequest ticket reply)
  | tell => exact same rfl rfl
  | answer => exact same rfl rfl
  | count => exact same rfl rfl
  | refresh => exact same rfl rfl
  | ask => exact same rfl rfl
  | evict => exact same rfl rfl
  | sent => exact same rfl rfl
  | receive => exact same rfl rfl

/-- No change touches the table. -/
theorem Change.validating (change : session.Change event later) :
    later.validating = session.validating := by
  cases change.rearranges <;> rfl

/-- A change keeps every push accounted for, unless it is the job that retires one. -/
theorem Tabled.change (tabled : session.Tabled) (change : session.Change event later)
    (other : ∀ ticket, event ≠ .run (.retire ticket)) : later.Tabled := by
  have due (ticket : Ticket) (before : .retire ticket ∈ session.ready) : .retire ticket ∈ later.ready := by
    by_cases runs : ∃ job, event = .run job
    · obtain ⟨job, rfl⟩ := runs
      cases change with
      | still => exact before
      | ran _ ready =>
        exact (List.mem_erase_of_ne fun same => other ticket (congrArg Event.run same.symm)).mpr before
      | edited _ _ _ _ _ named => rcases named with ⟨_, named, _⟩ | named <;> cases named
    · exact (KeepsJobs.change change fun job same => runs ⟨job, same⟩).kept _ before
  intro uri ticket entry
  rw [change.validating] at entry
  rcases tabled uri ticket entry with ⟨task, member, named, push, live⟩ | before
  · obtain ⟨held, after, ticket, purpose, cancelled, _⟩ := change.task_kept member
    exact .inl ⟨held, after, ticket.trans named, purpose.trans push, cancelled.trans live⟩
  · exact .inr (due ticket before)

/-- A job that retires a push removes the entry that it accounts for. -/
theorem Tabled.retire (tabled : session.Tabled) (wired : session.Wired) (ticket : Ticket) :
    (session.step (.run (.retire ticket))).Tabled := by
  change (session.run (.retire ticket)).Tabled
  by_cases ready : .retire ticket ∈ session.ready
  · rw [session.perform_taking ready]
    intro uri other entry
    change ((session.taking (.retire ticket)).runRetire ticket).validating.get? uri = some other at entry
    rw [get?_runRetire] at entry
    split at entry
    · cases entry
    · next kept =>
      have distinct : other ≠ ticket := by
        rintro rfl
        exact kept ⟨(wired.validating_named uri other entry).symm, entry⟩
      change ((session.taking (.retire ticket)).runRetire ticket).Accounted other
      rw [runRetire_frame]
      refine (tabled uri other entry).imp_right fun due => ?_
      exact (List.mem_erase_of_ne fun same => distinct (Job.retire.inj same)).mpr due
  · rw [run_of_not_ready session ready]
    exact tabled

private theorem Delisted.move {ticket : Ticket} (delisted : session.Delisted ticket)
    (move : Move event uri session later) : later.Delisted ticket := by
  obtain ⟨issued, absent⟩ := delisted
  refine ⟨Nat.lt_of_lt_of_le issued (move.issued ticket.uri), fun entry => ?_⟩
  rcases move.tabled entry with before | new
  · exact absent before
  · have number : ticket.number = session.issued ticket.uri := congrArg Ticket.number new
    omega

private theorem Delisted.change {ticket : Ticket} (delisted : session.Delisted ticket)
    (change : session.Change event later) : later.Delisted ticket := by
  unfold Delisted Session.issued at *
  rw [change.tickets, change.validating]
  exact delisted

end Moves

section Acts

variable {session : Session}

/-- Validating all open documents anew is made of moves, as when the configuration changes. -/
theorem moves_refresh (session : Session) :
    AnyMoves (.configured .null) session session.refreshDiagnostics := by
  refine session.anyMoves_refreshDiagnostics rfl ?_
  rintro uri ⟨job, same, _⟩
  cases same

private theorem Wired.act (wired : session.Wired) (act : Act) : (session.act act).Wired := by
  cases act with
  | event event => exact wired.step event
  | refresh => exact wired.moves session.moves_refresh

private theorem Tabled.act (tabled : session.Tabled) (wired : session.Wired) (act : Act) :
    (session.act act).Tabled := by
  have kept {event : Event} {first later : Session} (wired : first.Wired)
      (moves : AnyMoves event first later) (held : first.Tabled) : later.Tabled :=
    wired.keep moves Tabled held fun wired move before => before.move wired move
  cases act with
  | refresh => exact kept wired session.moves_refresh tabled
  | event event =>
    change (session.step event).Tabled
    by_cases retires : ∃ ticket, event = .run (.retire ticket)
    · obtain ⟨ticket, rfl⟩ := retires
      exact tabled.retire wired ticket
    · obtain ⟨middle, change, moves⟩ := wired.change_step event
      exact kept (wired.change change) moves
        (tabled.change change fun ticket same => retires ⟨ticket, same⟩)

private theorem Delisted.act {ticket : Ticket} (delisted : session.Delisted ticket) (wired : session.Wired)
    (act : Act) : (session.act act).Delisted ticket := by
  have kept {event : Event} {first later : Session} (wired : first.Wired)
      (moves : AnyMoves event first later) (held : first.Delisted ticket) : later.Delisted ticket :=
    wired.keep moves (Delisted · ticket) held fun _ move before => before.move move
  cases act with
  | refresh => exact kept wired session.moves_refresh delisted
  | event event =>
    obtain ⟨middle, change, moves⟩ := wired.change_step event
    exact kept (wired.change change) moves (delisted.change change)

/-- What holds at the start and is kept by whatever is done holds afterwards. -/
theorem actAll_induction {start : Session} (wired : start.Wired) (invariant : Session → Prop)
    (initial : invariant start) (acts : List Act)
    (kept : ∀ session act, session.Wired → invariant session → invariant (session.act act)) :
    (start.actAll acts).Wired ∧ invariant (start.actAll acts) := by
  induction acts generalizing start with
  | nil => exact ⟨wired, initial⟩
  | cons act rest step => exact step (wired.act act) (kept start act wired initial)

/-- A push that has left the table does not come back. -/
theorem Delisted.actAll {ticket : Ticket} (delisted : session.Delisted ticket) (wired : session.Wired)
    (acts : List Act) : (session.actAll acts).Delisted ticket :=
  (actAll_induction wired (Delisted · ticket) delisted acts fun _ act wired held => held.act wired act).2

private theorem Wired.issued_act (wired : session.Wired) (act : Act) (uri : String) :
    session.issued uri ≤ (session.act act).issued uri := by
  cases act with
  | refresh => exact session.moves_refresh.issued uri
  | event event => exact wired.issued_step event uri

/-- A push that the table has named and names no longer has left it for good. -/
theorem Wired.delisted_actAll (wired : session.Wired) {uri : String} {ticket : Ticket}
    (entry : session.validating.get? uri = some ticket) {acts : List Act}
    (left : (session.actAll acts).validating.get? uri ≠ some ticket) :
    (session.actAll acts).Delisted ticket := by
  obtain rfl := wired.validating_named uri ticket entry
  have issued := (wired.entered_pushes ticket.uri ticket entry).1
  refine ⟨?_, left⟩
  exact (actAll_induction wired (ticket.number < ·.issued ticket.uri) issued acts
    fun _ act wired held => Nat.lt_of_lt_of_le held (wired.issued_act act ticket.uri)).2

end Acts

section Pushes

variable {session : Session} {uri : String} {ticket : Ticket}

theorem mem_livePushes {task : Task} :
    task ∈ session.livePushes uri ↔
      task ∈ session.tasks ∧ task.uri = uri ∧ task.purpose = .push ∧ task.cancelled = false := by
  unfold livePushes
  rw [List.mem_filter, decide_eq_true_eq]

private theorem nodup_livePushes (wired : session.Wired) (uri : String) : (session.livePushes uri).Nodup :=
  (wired.tasks_nodup.of_map Task.ticket).filter _

theorem Wired.entry_of_live (wired : session.Wired) {task : Task}
    (live : task ∈ session.livePushes uri) : session.validating.get? uri = some task.ticket := by
  obtain ⟨member, rfl, push, running⟩ := mem_livePushes.mp live
  exact wired.pushes_entered task member push running

/-- A task whose push the table names was not cancelled. -/
theorem Tabled.live_of_entry (tabled : session.Tabled) (wired : session.Wired)
    (entry : session.validating.get? uri = some ticket) {task : Task}
    (found : session.task? ticket = some task) : task ∈ session.livePushes uri := by
  rcases tabled uri ticket entry with ⟨held, member, named, push, running⟩ | due
  · have same : held = task := by
      refine wired.task_unique member (mem_of_task? found) ?_
      rw [named, ticket_of_task? found]
    subst same
    refine mem_livePushes.mpr ⟨member, ?_, push, running⟩
    rw [Task.uri, named]
    exact wired.validating_named uri ticket entry
  · rw [(wired.retired_ended ticket due).1] at found
    cases found

/-- The pushes for a document that are neither over nor cancelled are the one that the table names. -/
theorem Tabled.livePushes_eq (tabled : session.Tabled) (wired : session.Wired) (uri : String) :
    session.livePushes uri = (session.entered? uri).toList := by
  have named {task : Task} (live : task ∈ session.livePushes uri) :
      session.entered? uri = some task := by
    unfold entered?
    rw [wired.entry_of_live live]
    exact wired.task_of_mem (mem_livePushes.mp live).1
  cases entered : session.entered? uri with
  | none =>
    refine List.eq_nil_iff_forall_not_mem.mpr fun task live => ?_
    rw [named live] at entered
    cases entered
  | some task =>
    obtain ⟨ticket, entry, found⟩ := Option.bind_eq_some_iff.mp entered
    have live := tabled.live_of_entry wired entry found
    -- both lists are without repetition and have the same members
    refine List.perm_singleton.mp
      ((List.perm_ext_iff_of_nodup (nodup_livePushes wired uri) (List.nodup_singleton task)).mpr
        fun other => ?_)
    rw [List.mem_singleton]
    constructor
    · intro also
      exact Option.some.inj ((named also).symm.trans entered)
    · rintro rfl
      exact live

private theorem Tabled.due_of_ended (tabled : session.Tabled) (wired : session.Wired)
    (entry : session.validating.get? uri = some ticket) (ended : session.task? ticket = none) :
    .retire ticket ∈ session.ready := by
  rcases tabled uri ticket entry with ⟨task, member, rfl, _⟩ | due
  · rw [wired.task_of_mem member] at ended
    cases ended
  · exact due

/-- A task that was cancelled is not in the table. -/
theorem Tabled.delisted_of_cancelled (tabled : session.Tabled) (wired : session.Wired) {task : Task}
    (member : task ∈ session.tasks) (cancelled : task.cancelled = true) :
    session.Delisted task.ticket := by
  refine ⟨wired.tasks_issued task member, fun entry => ?_⟩
  have live := tabled.live_of_entry wired entry (wired.task_of_mem member)
  rw [(mem_livePushes.mp live).2.2.2] at cancelled
  cases cancelled

/-- What is published, apart from the notice that a document was closed, is published at the turn of the
push that the table names. -/
theorem Pushes.publisher {event : Event} {publication : Publication}
    (pushes : session.Pushes event publication) (wired : session.Wired) :
    ∃ task ∈ session.livePushes publication.uri,
      session.validating.get? publication.uri = some task.ticket ∧
        ∃ job, event = .run job ∧ job.turnOf? = some task.ticket := by
  obtain ⟨job, turn, after, _, _, runs, ready, takes, push, here, _⟩ := pushes
  obtain ⟨found, running, _⟩ := takes.found
  have live : turn.task ∈ session.livePushes publication.uri :=
    mem_livePushes.mpr ⟨mem_of_task? found, here, push, running⟩
  exact ⟨turn.task, live, wired.entry_of_live live, job, runs, takes.turnOf⟩

theorem Wired.published_by (wired : session.Wired) {act : Act} {publication : Publication}
    (member : .publish publication ∈ session.saidBy act) :
    (act = .event (.closed publication.uri) ∧ publication = closeNotice publication.uri) ∨
      ∃ task ∈ session.livePushes publication.uri,
        session.validating.get? publication.uri = some task.ticket ∧
          ∃ job, act = .event (.run job) ∧ job.turnOf? = some task.ticket := by
  cases act with
  | event event =>
    rcases wired.publishes member with ⟨rfl, notice⟩ | pushes
    · exact .inl ⟨rfl, notice⟩
    · obtain ⟨task, live, entry, job, rfl, turn⟩ := pushes.publisher wired
      exact .inr ⟨task, live, entry, job, rfl, turn⟩
  | refresh =>
    obtain ⟨effects, grown, justified⟩ := Says.moves session.moves_refresh
    have said : session.saidBy .refresh = effects := by
      unfold saidBy
      rw [show session.act .refresh = session.refreshDiagnostics from rfl, grown, List.drop_left]
    rw [said] at member
    rcases justified _ member with ⟨job, same, _⟩ | ⟨same, _⟩ <;> cases same

/-- A push that has left the table publishes nothing. -/
theorem Delisted.silent (delisted : session.Delisted ticket) (wired : session.Wired) {job : Job}
    (turn : job.turnOf? = some ticket) (publication : Publication) :
    .publish publication ∉ session.saidBy (.event (.run job)) := by
  intro member
  rcases wired.published_by member with ⟨same, _⟩ | ⟨task, live, entry, other, same, turns⟩
  · cases same
  · cases same
    obtain rfl := Option.some.inj (turn.symm.trans turns)
    rw [← (mem_livePushes.mp live).2.1] at entry
    exact delisted.2 entry

/-- Without pushes and retirements to come, the table is empty. -/
theorem Tabled.empty (tabled : session.Tabled) (idle : ∀ task ∈ session.tasks, task.purpose ≠ .push)
    (retired : ∀ ticket, .retire ticket ∉ session.ready) : session.validating = .empty := by
  apply Table.eq_empty
  intro uri
  cases entry : session.validating.get? uri with
  | none => rfl
  | some ticket =>
    rcases tabled uri ticket entry with ⟨task, member, _, push, _⟩ | due
    · exact absurd push (idle task member)
    · exact absurd due (retired ticket)

end Pushes

/-- How the table of pushes is kept, whatever is done next. -/
structure TablesPushes (session : Session) : Prop where
  /-- Of the pushes for a document at most one has neither ended nor been cancelled, and it is the one that
  the table names. -/
  one_live : ∀ uri, session.livePushes uri = (session.entered? uri).toList
  /-- An entry whose push has ended is there only until the push is retired. -/
  awaits_retirement : ∀ uri ticket, session.validating.get? uri = some ticket →
    session.task? ticket = none → .retire ticket ∈ session.ready
  /-- The table does not name a task that was cancelled. -/
  cancelled_out : ∀ task ∈ session.tasks, task.cancelled = true → session.Delisted task.ticket
  /-- Scheduling a newer push puts it in the place of the one in the table, whether that has ended or
  not, and cancelling leaves no entry. -/
  superseded_out : ∀ uri,
    (session.act (.event (.schedule uri))).validating.get? uri = some (session.nextTicket uri) ∧
      (session.act (.event (.cancelValidation uri))).validating.get? uri = none
  /-- So it is with whatever else takes a push out of the table. -/
  taken_out : ∀ uri ticket acts, session.validating.get? uri = some ticket →
    (session.actAll acts).validating.get? uri ≠ some ticket → (session.actAll acts).Delisted ticket
  /-- It does not come back. -/
  never_back : ∀ ticket acts, session.Delisted ticket → (session.actAll acts).Delisted ticket
  /-- Its retirement leaves the whole table as it is. -/
  retired_unseen : ∀ ticket acts, session.Delisted ticket →
    ((session.actAll acts).act (.event (.run (.retire ticket)))).validating =
      (session.actAll acts).validating
  /-- No job removes an entry but the retirement of its own push, after that has ended. -/
  removed_by_own : ∀ uri ticket job, session.validating.get? uri = some ticket →
    (session.act (.event (.run job))).validating.get? uri = some ticket ∨
      (job = .retire ticket ∧ session.task? ticket = none)
  /-- Apart from notices that a document was closed, everything is published at a turn of the push that
  the table names, which was not cancelled. -/
  published_by_live : ∀ act publication, .publish publication ∈ session.saidBy act →
    (act = .event (.closed publication.uri) ∧ publication = closeNotice publication.uri) ∨
      ∃ task ∈ session.livePushes publication.uri,
        session.validating.get? publication.uri = some task.ticket ∧
          ∃ job, act = .event (.run job) ∧ job.turnOf? = some task.ticket
  /-- A task that was cancelled, or a push that is out of the table, never publishes anything. -/
  silent : ∀ ticket acts job publication, session.Delisted ticket → job.turnOf? = some ticket →
    .publish publication ∉ (session.actAll acts).saidBy (.event (.run job))
  /-- Once every push is over and every retirement has happened, the table is empty. -/
  emptied : (∀ task ∈ session.tasks, task.purpose ≠ .push) →
    (∀ ticket, .retire ticket ∉ session.ready) → session.validating = .empty

private theorem Tabled.start (start : Start) : start.session.Tabled := by
  intro uri ticket entry
  cases start <;> cases entry

/-- The table of pushes is kept so after whatever was done to a session. -/
theorem pushes_tabled (start : Start) (acts : List Act) :
    (start.session.actAll acts).TablesPushes := by
  obtain ⟨wired, tabled⟩ := actAll_induction start.wired Tabled (.start start) acts
    fun _ act wired held => held.act wired act
  have later (more : List Act) : ((start.session.actAll acts).actAll more).Wired :=
    (actAll_induction wired (fun _ => True) trivial more fun _ _ _ _ => trivial).1
  constructor
  case one_live => exact tabled.livePushes_eq wired
  case awaits_retirement => exact fun uri ticket entry ended => tabled.due_of_ended wired entry ended
  case cancelled_out => exact fun task member cancelled => tabled.delisted_of_cancelled wired member cancelled
  case superseded_out =>
    refine fun uri => ⟨?_, ?_⟩
    · exact (get?_schedule _ uri uri).trans (if_pos rfl)
    · exact (get?_cancelValidation _ uri uri).trans (if_pos rfl)
  case taken_out => exact fun uri ticket more entry left => wired.delisted_actAll entry left
  case never_back => exact fun ticket more delisted => delisted.actAll wired more
  case retired_unseen => exact fun ticket more delisted => (delisted.actAll wired more).validating_retire
  case removed_by_own => exact fun uri ticket job entry => wired.entry_run entry job
  case published_by_live => exact fun act publication member => wired.published_by member
  case silent =>
    exact fun ticket more job publication delisted turn =>
      (delisted.actAll wired more).silent (later more) turn publication
  case emptied => exact fun idle retired => tabled.empty idle retired

/-- A push that has ended may still be in the table when a newer one is scheduled; its retirement then
finds the newer one. -/
example :
    let uri := "file:///a.hz"
    let ended := (fresh .null true).runAll [.schedule uri, .run (.start ⟨uri, 0⟩)]
    let newer := ended.runAll [.schedule uri, .run (.retire ⟨uri, 0⟩)]
    ended.tasks = [] ∧ ended.validating.get? uri = some ⟨uri, 0⟩ ∧
      newer.validating.get? uri = some ⟨uri, 1⟩ :=
  ⟨rfl, rfl, rfl⟩

end Session

end HazeServer
