import HazeServer.Proofs.Session.Views

/-! # Turns of tasks

A job gives a task its first turn or lets it continue. Either the task ends without looking at the
settings, or it looks them up and goes on with what the look-up gave. `Turns` lists what such a job
can do; that it does nothing else is `turns_runStart` and `turns_runResume`, and whatever is said of
tasks afterwards is read off this list.
-/

namespace HazeServer

/-- A turn of a task that has looked up its settings. -/
structure Turn where
  task : Task
  subject : Subject
  version : Json
  lookup : Lookup

namespace Session

/-- What a look-up for a document gives, and the session after it. -/
inductive LookedUp (session : Session) (uri : String) : Lookup → Session → Prop where
  /-- Before the handshake there is no cache, and the settings are the default ones. -/
  | early (absent : session.cache = none) : LookedUp session uri (.found .default) session
  /-- A client that cannot be asked has one setting for all documents. -/
  | shared (cache : Cache) (present : session.cache = some cache)
      (silent : session.asksClient = false) : LookedUp session uri (.found cache.global) session
  /-- The first look-up makes a request. -/
  | asked (cache : Cache) (present : session.cache = some cache)
      (asks : session.asksClient = true) (absent : cache.entries.get? uri = none) :
      LookedUp session uri (.waiting (session.nextTicket uri)) (session.askFor uri).2
  /-- Later ones wait for the same request. -/
  | joined (cache : Cache) (request : Ticket) (present : session.cache = some cache)
      (asks : session.asksClient = true) (entry : cache.entries.get? uri = some request)
      (unsettled : session.outcome? request = none) :
      LookedUp session uri (.waiting request) session
  /-- The outcome of a settled request is learned. -/
  | learned (request : Ticket) (outcome : Outcome) (here : request.uri = uri)
      (settled : session.outcome? request = some outcome) :
      LookedUp session uri (session.learn request outcome).1 (session.learn request outcome).2

/-- The version that a task sees at its first turn, if it goes on to look up its settings: one that
asks for nothing else sees none, and the others need an open document. -/
def Sees (session : Session) (task : Task) (version : Json) : Prop :=
  match task.purpose with
  | .settings _ => version = .null
  | purpose =>
      session.lacksPlugins purpose = false ∧
        (session.store.get? task.uri).map (·.version) = some version

/-- A job gives a task a turn in which it looks up its settings; the last session is the one after
the look-up. -/
inductive Takes (session : Session) : Job → Turn → Session → Prop where
  | first (task : Task) (version : Json) (found : session.task? task.ticket = some task)
      (new : task.stage = .created) (live : task.cancelled = false)
      (sees : session.Sees task version) :
      Takes session (.start task.ticket) ⟨task, .stored, version, (session.lookUp task.uri).1⟩
        (session.lookUp task.uri).2
  | later (task : Task) (request : Ticket) (subject : Subject) (version : Json) (outcome : Outcome)
      (found : session.task? task.ticket = some task)
      (waits : task.stage = .waiting request subject version) (live : task.cancelled = false)
      (settled : session.outcome? request = some outcome) :
      Takes session (.resume task.ticket)
        ⟨task, subject, version, (session.learn request outcome).1⟩
        (session.learn request outcome).2

/-- A job that has to happen: a new task has to begin, a waiting one has to continue when it is
cancelled or its request is settled, and a request has to go out and its reply to arrive. -/
def Owes (session : Session) : Job → Prop
  | .start ticket => ∃ task, session.task? ticket = some task ∧ task.stage = .created
  | .resume ticket => ∃ task request subject version, session.task? ticket = some task ∧
      task.stage = .waiting request subject version ∧
        (task.cancelled = true ∨ (session.outcome? request).isSome)
  | .send ticket => session.requestState? ticket = some .unsent
  | .deliver ticket => ∃ reply, session.requestState? ticket = some (.answered reply)
  | .retire _ => False

/-- What a job about a task does. -/
inductive Turns (session : Session) : Job → Session → Prop where
  /-- There is nothing to do. -/
  | idle {job : Job} (unowed : ¬ session.Owes job) : Turns session job session
  /-- A cancelled task ends. -/
  | dismiss {job : Job} (task : Task) (found : session.task? task.ticket = some task)
      (named : job = .start task.ticket ∨ job = .resume task.ticket)
      (cancelled : task.cancelled = true) :
      Turns session job ((session.answer task .cancelled).endTask task)
  /-- A task ends because there is no document, or because nobody is asked. -/
  | empty (task : Task) (found : session.task? task.ticket = some task)
      (new : task.stage = .created) (live : task.cancelled = false)
      (needs : ∀ id, task.purpose ≠ .settings id)
      (nothing : session.lacksPlugins task.purpose = true ∨ session.store.get? task.uri = none) :
      Turns session (.start task.ticket) (session.endEmpty task)
  /-- A task goes on with what it looked up. -/
  | turn {job : Job} {turn : Turn} {after : Session} (takes : session.Takes job turn after) :
      Turns session job (after.proceed turn.task turn.subject turn.version turn.lookup)

private theorem turns_beginTask (session : Session) (task : Task)
    (found : session.task? task.ticket = some task) (new : task.stage = .created)
    (live : task.cancelled = false) :
    session.Turns (.start task.ticket) (session.beginTask task) := by
  have takes (version : Json) (sees : session.Sees task version) :
      session.Turns (.start task.ticket) (session.consult task version) :=
    .turn (.first task version found new live sees)
  unfold beginTask
  split
  · next id asks =>
    apply takes
    simp only [Sees, asks]
  · next other =>
    cases lacks : session.lacksPlugins task.purpose with
    | true => exact .empty task found new live other (.inl lacks)
    | false =>
      simp only [Bool.false_eq_true, ↓reduceIte]
      cases held : session.store.get? task.uri with
      | none => exact .empty task found new live other (.inr held)
      | some document =>
        apply takes
        unfold Sees
        split
        · next id asks => exact absurd asks (other id)
        · exact ⟨lacks, by rw [held, Option.map_some]⟩

theorem turns_runStart (session : Session) (ticket : Ticket) :
    session.Turns (.start ticket) (session.runStart ticket) := by
  unfold runStart
  cases found : session.task? ticket with
  | none =>
    apply Turns.idle
    rintro ⟨task, held, _⟩
    simp only [found, reduceCtorEq] at held
  | some task =>
    obtain rfl := ticket_of_task? found
    cases stage : task.stage with
    | waiting request subject version =>
      simp only [stage]
      apply Turns.idle
      rintro ⟨other, held, new⟩
      rw [found] at held
      cases held
      rw [stage] at new
      cases new
    | created =>
      simp only [stage]
      cases live : task.cancelled with
      | true => exact .dismiss task found (.inl rfl) live
      | false => exact turns_beginTask session task found stage live

theorem turns_runResume (session : Session) (ticket : Ticket) :
    session.Turns (.resume ticket) (session.runResume ticket) := by
  unfold runResume
  cases found : session.task? ticket with
  | none =>
    apply Turns.idle
    rintro ⟨task, _, _, _, held, _⟩
    simp only [found, reduceCtorEq] at held
  | some task =>
    obtain rfl := ticket_of_task? found
    cases stage : task.stage with
    | created =>
      simp only [stage]
      apply Turns.idle
      rintro ⟨other, _, _, _, held, waits, _⟩
      rw [found] at held
      cases held
      rw [stage] at waits
      cases waits
    | waiting request subject version =>
      simp only [stage]
      cases live : task.cancelled with
      | true => exact .dismiss task found (.inr rfl) live
      | false =>
        cases settled : session.outcome? request with
        | none =>
          simp only [Bool.false_eq_true, ↓reduceIte]
          apply Turns.idle
          rintro ⟨other, _, _, _, held, waits, due⟩
          rw [found] at held
          cases held
          rw [stage] at waits
          cases waits
          simp only [live, Bool.false_eq_true, settled, Option.isSome_none, or_self] at due
        | some outcome =>
          simp only [Bool.false_eq_true, ↓reduceIte]
          exact .turn (.later task request subject version outcome found stage live settled)

/-- A job that gives a task a turn does nothing else. -/
theorem Takes.perform_eq {session after : Session} {job : Job} {turn : Turn}
    (takes : session.Takes job turn after) :
    session.perform job = after.proceed turn.task turn.subject turn.version turn.lookup := by
  cases takes with
  | first task version found new live sees =>
    change session.runStart task.ticket = session.consult task version
    unfold runStart
    simp only [found, new, live, Bool.false_eq_true, ↓reduceIte]
    unfold beginTask
    unfold Sees at sees
    split
    · next id asks =>
      rw [asks] at sees
      rw [sees]
    · next other =>
      split at sees
      · next id asks => exact absurd asks (other id)
      · obtain ⟨lacks, seen⟩ := sees
        obtain ⟨document, held, rfl⟩ := Option.map_eq_some_iff.mp seen
        simp only [lacks, held, Bool.false_eq_true, ↓reduceIte]
  | later task request subject version outcome found waits live settled =>
    change session.runResume task.ticket = _
    unfold runResume
    simp only [found, waits, live, settled, Bool.false_eq_true, ↓reduceIte]

end Session

end HazeServer
