import HazeServer.Proofs.Session.Entries

/-! # The callers of a request

A caller of a request is a task that waits for it. Whatever happens, a caller goes on waiting or ends
in one of two ways: it was cancelled, or it learns what the request has led to. The first caller that
learns of a failure removes the entry, and the next look-up for the document then makes a new request.
-/

namespace HazeServer

/-- What a look-up is answered with when its request has led to an outcome. -/
def Outcome.response : Outcome → Response
  | .settings given => .settings given
  | .failed => .settings .default
  | .fault met => .fault met
  | .cancelled => .cancelled

/-- A task after some events: it keeps its ticket and purpose, and stays cancelled. -/
structure Task.Continues (task held : Task) : Prop where
  ticket : held.ticket = task.ticket
  purpose : held.purpose = task.purpose
  cancelled : task.cancelled = true → held.cancelled = true

theorem Task.Continues.refl (task : Task) : task.Continues task := ⟨rfl, rfl, id⟩

private theorem Task.Continues.trans {first second third : Task} (left : first.Continues second)
    (right : second.Continues third) : first.Continues third :=
  ⟨right.ticket.trans left.ticket, right.purpose.trans left.purpose, right.cancelled ∘ left.cancelled⟩

namespace Session

/-- A task that waits for a request. -/
structure Caller (session : Session) (request : Ticket) (task : Task) : Prop where
  member : task ∈ session.tasks
  waits : task.waitsFor request = true

/-- How an event ends a caller of a request. -/
inductive Released (session : Session) (event : Event) (request : Ticket) (task : Task) : Prop where
  | dismissed (cancelled : task.cancelled = true)
      (gone : (session.step event).task? task.ticket = none)
      (said : session.emitted event = answerEffects task .cancelled)
  | learned (live : task.cancelled = false) (learns : session.Learns event request) (outcome : Outcome)
      (settled : session.outcome? request = some outcome)
      (gone : (session.step event).task? task.ticket = none)
      (said : ∀ id, task.purpose = .settings id →
        session.emitted event = [.respond task.uri id outcome.response])

theorem waitsFor_iff {task : Task} {request : Ticket} :
    task.waitsFor request = true ↔
      ∃ subject version, task.stage = .waiting request subject version := by
  unfold Task.waitsFor
  cases task.stage with
  | created => simp
  | waiting awaited subject version => simp

section Calling

variable {session : Session} {event : Event} {request : Ticket} {task : Task}

/-- What is no job lets every caller wait on. -/
theorem Caller.calm (caller : session.Caller request task) (wired : session.Wired)
    (calm : ∀ uri, ¬ event.RunsFor uri) :
    ∃ held, (session.step event).Caller request held ∧ task.Continues held := by
  obtain ⟨middle, change, moves⟩ := wired.change_step event
  obtain ⟨first, after, ticket, purpose, cancelled, waits⟩ := change.task_kept caller.member
  refine (wired.change change).keep moves
    (fun later => ∃ held, later.Caller request held ∧ task.Continues held) ?_ ?_
  · refine ⟨first, ⟨after, ?_⟩, ticket, purpose, fun flag => cancelled.trans flag⟩
    rw [waits]
    exact caller.waits
  · rintro uri first second wired move ⟨held, waiting, continues⟩
    have marked (after : { held with cancelled := true } ∈ second.tasks) :
        ∃ held, second.Caller request held ∧ task.Continues held :=
      ⟨_, ⟨after, waiting.waits⟩, continues.ticket, continues.purpose, fun _ => rfl⟩
    cases move.fate wired waiting.member with
    | kept after => exact ⟨held, ⟨after, waiting.waits⟩, continues⟩
    | ran runs => exact absurd runs (calm _)
    | superseded _ _ after => exact marked after
    | cancelled _ _ _ after => exact marked after

theorem turnEffects_learn (session after : Session) {id : RequestId}
    (asks : task.purpose = .settings id) (subject : Subject) (version : Json) (request : Ticket)
    (outcome : Outcome) :
    after.turnEffects task subject version (session.learn request outcome).1 =
      [.respond task.uri id outcome.response] := by
  cases outcome <;> simp [learn, turnEffects, asks, answerEffects_settings asks, Outcome.response]

/-- A caller waits on after an event, or is released by it. -/
theorem Caller.step (caller : session.Caller request task) (wired : session.Wired) (event : Event) :
    (∃ held, (session.step event).Caller request held ∧ task.Continues held) ∨
      session.Released event request task := by
  by_cases runs : ∃ job, event = .run job
  · obtain ⟨job, rfl⟩ := runs
    have waits := waitsFor_iff.mp caller.waits
    by_cases ready : job ∈ session.ready
    · rcases wired.task_run ready caller.member with
        kept | ⟨cancelled, ends⟩ | ⟨_, _, new⟩ | ⟨turn, after, takes, rfl⟩
      · exact .inl ⟨task, ⟨kept, caller.waits⟩, .refl task⟩
      · refine .inr (.dismissed cancelled ?_ (emitted_eq ?_))
        · rw [ends, task?_endTask, if_pos rfl]
        · rw [ends, outbox_endTask, outbox_answer]
          rfl
      · obtain ⟨subject, version, waits⟩ := waits
        rw [new] at waits
        cases waits
      · have gone := takes.task?_step ready wired
        have said := takes.emitted ready wired
        cases takes with
        | first held version found new live sees =>
          obtain ⟨subject, version, waits⟩ := waits
          rw [new] at waits
          cases waits
        | later held awaited subject version outcome found waiting live settled =>
          obtain ⟨about, seen, waits⟩ := waits
          obtain rfl : awaited = request := by
            rw [waiting] at waits
            cases waits
            rfl
          have known : session.outcome? awaited = some outcome := settled
          have learns : session.Learns (.run (.resume held.ticket)) awaited :=
            .later held awaited subject version ready found waiting live (by rw [known]; rfl)
          refine .inr (.learned live learns outcome known ?_ fun id asks => ?_)
          · rw [gone]
            split
            · next other same => exact absurd same (learn_not_waiting _ awaited other outcome)
            · rfl
          · rw [said]
            exact turnEffects_learn _ _ asks subject version awaited outcome
    · left
      change ∃ held, (session.run job).Caller request held ∧ task.Continues held
      rw [run_of_not_ready session ready]
      exact ⟨task, caller, .refl task⟩
  · exact .inl (caller.calm wired fun uri held => runs ⟨_, held.choose_spec.1⟩)

/-- After any events a caller still waits, or it was released at one of them. -/
theorem Caller.runAll (caller : session.Caller request task) (wired : session.Wired)
    (events : List Event) :
    (∃ held, (session.runAll events).Caller request held ∧ task.Continues held) ∨
      ∃ first event rest held, events = first ++ event :: rest ∧ task.Continues held ∧
        (session.runAll first).Caller request held ∧
        (session.runAll first).Released event request held := by
  induction events generalizing session task with
  | nil => exact .inl ⟨task, caller, .refl task⟩
  | cons event rest step =>
    rcases caller.step wired event with ⟨next, waits, continues⟩ | released
    · rcases step waits (wired.step event) with
        ⟨held, still, further⟩ | ⟨first, last, remaining, held, rfl, further, waiting, released⟩
      · exact .inl ⟨held, still, continues.trans further⟩
      · exact .inr ⟨event :: first, last, remaining, held, rfl, continues.trans further, waiting,
          released⟩
    · exact .inr ⟨[], event, rest, task, rfl, .refl task, caller, released⟩

/-- A task that continues and learns of a request is a caller of it. -/
theorem Learns.caller {ticket : Ticket} (learns : session.Learns event request)
    (resumes : event = .run (.resume ticket)) :
    ∃ held, session.Caller request held ∧ held.ticket = ticket := by
  cases learns with
  | first => cases resumes
  | later held request subject version _ found waits =>
    cases resumes
    exact ⟨held, ⟨mem_of_task? found, waitsFor_iff.mpr ⟨subject, version, waits⟩⟩, rfl⟩

/-- A request without an outcome may have callers, but with nothing left to do no caller waits for a
settled one. -/
theorem Prompt.unsettled (prompt : session.Prompt) (wired : session.Wired) (idle : session.ready = [])
    (caller : session.Caller request task) : session.outcome? request = none := by
  cases settled : session.outcome? request with
  | none => rfl
  | some outcome =>
    obtain ⟨subject, version, waits⟩ := waitsFor_iff.mp caller.waits
    have due := prompt (.resume task.ticket)
      ⟨task, request, subject, version, wired.task_of_mem caller.member, waits, .inr (by
        rw [settled]
        rfl)⟩
    rw [idle] at due
    cases due

end Calling

/-- A look-up that begins joins a request: it waits for it, or is answered with what it has led to. -/
def Joins (session : Session) (request : Ticket) (task : Task) (id : RequestId) : Prop :=
  match session.outcome? request with
  | none =>
      (session.step (.run (.start task.ticket))).Caller request
        { task with stage := .waiting request .stored .null }
  | some outcome => session.Answers (.run (.start task.ticket)) task.ticket id outcome.response

section Joining

variable {session : Session} {request : Ticket} {task : Task} {id : RequestId}

/-- Where there is an entry, a look-up joins its request. -/
theorem Wired.joins (wired : session.Wired) (ready : .start task.ticket ∈ session.ready)
    (found : session.task? task.ticket = some task) (asks : task.purpose = .settings id)
    (new : task.stage = .created) (live : task.cancelled = false)
    (entry : session.entryOf task.uri = some request) : session.Joins request task id := by
  have takes : (session.taking (.start task.ticket)).Takes _ _ _ :=
    .first task .null found new live (by simp only [Sees, asks])
  have after := takes.task?_step ready wired
  have said := takes.emitted ready wired
  unfold Joins
  cases settled : session.outcome? request with
  | none =>
    have looked : (session.taking (.start task.ticket)).lookUp task.uri = (.waiting request, _) :=
      lookUp_of_unsettled _ entry settled
    rw [looked] at after
    exact ⟨mem_of_task? after, waitsFor_iff.mpr ⟨.stored, .null, rfl⟩⟩
  | some outcome =>
    have looked : (session.taking (.start task.ticket)).lookUp task.uri = _ :=
      lookUp_of_settled _ entry settled
    rw [looked] at after said
    refine ⟨⟨task, found, asks⟩, ?_, ?_⟩
    · rw [after]
      split
      · next other same => exact absurd same (learn_not_waiting _ request other outcome)
      · rfl
    · rw [said]
      exact turnEffects_learn _ _ asks .stored .null request outcome

end Joining

section Retrying

variable {session : Session} {event : Event} {request : Ticket}

private theorem entryOf_forgetRequest (session : Session) (request : Ticket) :
    (session.forgetRequest request).entryOf request.uri ≠ some request := by
  unfold forgetRequest
  rw [entryOf_updateEntries]
  intro listed
  split at listed
  · obtain ⟨cache, _, held⟩ := Option.bind_eq_some_iff.mp listed
    split at held
    · rw [Table.get?_erase, if_pos rfl] at held
      cases held
    · next other => exact other held
  · cases listed

theorem Takes.entryOf_step {job : Job} {turn : Turn} {after : Session} (ready : job ∈ session.ready)
    (takes : (session.taking job).Takes job turn after) (uri : String) :
    (session.step (.run job)).entryOf uri = after.entryOf uri := by
  change (session.run job).entryOf uri = _
  rw [session.perform_taking ready, takes.perform_eq, proceed_frame]
  rfl

/-- Whoever learns of a failure leaves no entry for the request. -/
theorem Learns.drops (learns : session.Learns event request)
    (failed : session.outcome? request = some .failed) :
    (session.step event).entryOf request.uri ≠ some request := by
  cases learns with
  | first task request version ready found new live sees entry =>
    have takes : (session.taking (.start task.ticket)).Takes _ _ _ :=
      .first task version found new live sees
    rw [takes.entryOf_step ready,
      (session.taking (.start task.ticket)).lookUp_of_settled entry failed]
    exact entryOf_forgetRequest _ request
  | later task request subject version ready found waits live =>
    have takes : (session.taking (.resume task.ticket)).Takes _ _ _ :=
      .later task request subject version .failed found waits live failed
    rw [takes.entryOf_step ready]
    exact entryOf_forgetRequest _ request

end Retrying

end Session

end HazeServer
