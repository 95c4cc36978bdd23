import HazeServer.Proofs.Session.Tasks

/-! # What is said

A turn of a task says what its purpose asks for; its effects are computed here from what its look-up
gave. `Spoken` lists all that a job can say, and `Spent` all the ways in which it can use up a task.
Whatever is published or answered in a run comes from a job, or from closing a document.
-/

namespace HazeServer

/-- Whether an event can lead to an effect: diagnostics are published by jobs for their document, or
as the notice that it was closed, requests are answered by jobs, and the client is asked to refresh when
its configuration changes. -/
def Event.Justifies (event : Event) : Effect → Prop
  | .publish publication =>
      event.RunsFor publication.uri ∨
        (event = .closed publication.uri ∧ publication = closeNotice publication.uri)
  | .respond uri _ _ => event.RunsFor uri
  | .askRefresh => ∃ payload, event = .configured payload
  | _ => True

private theorem Event.Tells.justifies {event : Event} {effect : Effect} (told : event.Tells effect) :
    event.Justifies effect := by
  cases effect with
  | publish => exact told.elim
  | respond => exact told.elim
  | askRefresh => exact told
  | _ => trivial

namespace Session

/-- What a push says with the outcome of its validation. -/
def pushEffects (session : Session) (uri : String) (subject : Subject) (version : Json) :
    Except Fault (List Diagnostic) → List Effect
  | .error fault => [validationFailure uri fault]
  | .ok diagnostics =>
      if session.isCurrent uri subject version ∧
          (Publication.mk uri version diagnostics).fault? = none ∧
          session.transport.publishFault = none then
        [.publish ⟨uri, version, diagnostics⟩]
      else []

/-- What a pull says with the outcome of its validation: a failure is logged, and the report is
empty. -/
def pullEffects (uri : String) (id : RequestId) : Except Fault (List Diagnostic) → List Effect
  | .error fault => [pluginFailure "Diagnostics" validatorName fault, .respond uri id (.report [])]
  | .ok items => [.respond uri id (.report items)]

/-- What the validator answers when it is asked directly. -/
def diagnoseEffects (uri : String) (id : RequestId) : Except Fault (List Diagnostic) → List Effect
  | .error fault => [.respond uri id (.fault fault)]
  | .ok items => [.respond uri id (.diagnostics items)]

/-- The answer to the request that a task is for. -/
def answerEffects (task : Task) (response : Response) : List Effect :=
  (task.purpose.requestId?.map fun id => .respond task.uri id response).toList

/-- What a task says with the outcome of its validation. -/
def resultEffects (session : Session) (task : Task) (subject : Subject) (version : Json)
    (result : Except Fault (List Diagnostic)) : List Effect :=
  match task.purpose with
  | .push => session.pushEffects task.uri subject version result
  | .pull id => pullEffects task.uri id result
  | .diagnose id => diagnoseEffects task.uri id result
  | .settings _ => []

/-- What a task says with what it looked up. -/
def turnEffects (session : Session) (task : Task) (subject : Subject) (version : Json) :
    Lookup → List Effect
  | .waiting _ => []
  | .cancelled => answerEffects task .cancelled
  | .fault fault =>
      match task.purpose with
      | .settings _ => answerEffects task (.fault fault)
      | _ => session.resultEffects task subject version (.error fault)
  | .found settings =>
      match task.purpose with
      | .settings _ => answerEffects task (.settings settings)
      | _ =>
          match session.subjectDocument task.uri subject with
          | none => []
          | some document =>
              session.resultEffects task subject version
                (session.rule.validate (showsRelated session.client) settings.problemLimit
                  document).result

theorem outbox_endTask (session : Session) (task : Task) :
    (session.endTask task).outbox = session.outbox := by
  rw [endTask_frame]

theorem outbox_answer (session : Session) (task : Task) (response : Response) :
    (session.answer task response).outbox = session.outbox ++ answerEffects task response := by
  rw [answer_eq_emitAll]
  rfl

theorem outbox_publish (session : Session) (publication : Publication) :
    (session.publish publication).2.outbox =
      session.outbox ++
        if publication.fault? = none ∧ session.transport.publishFault = none then
          [.publish publication]
        else [] := by
  rcases session.publish_cases publication with
    ⟨refused, same⟩ | ⟨_, _, lost, _, same⟩ | ⟨valid, sent, same⟩ <;> rw [same]
  · rw [if_neg, List.append_nil]
    rintro ⟨valid, _⟩
    rw [valid] at refused
    cases refused
  · rw [if_neg, List.append_nil]
    rintro ⟨_, sent⟩
    rw [sent] at lost
    cases lost
  · rw [if_pos ⟨valid, sent⟩]
    rfl

private theorem outbox_finishPush (session : Session) (uri : String) (subject : Subject) (version : Json)
    (result : Except Fault (List Diagnostic)) :
    (session.finishPush uri subject version result).outbox =
      session.outbox ++ session.pushEffects uri subject version result := by
  unfold finishPush pushEffects
  cases result with
  | error fault => rfl
  | ok diagnostics =>
    cases session.isCurrent uri subject version with
    | true => simp only [↓reduceIte, outbox_publish, true_and]
    | false => simp

private theorem outbox_finishValidation (session : Session) (task : Task) (subject : Subject)
    (version : Json) (result : Except Fault (List Diagnostic)) :
    (session.finishValidation task subject version result).outbox =
      session.outbox ++ session.resultEffects task subject version result := by
  unfold finishValidation resultEffects
  cases purpose : task.purpose with
  | push => exact session.outbox_finishPush task.uri subject version result
  | pull id =>
    simp only [outbox_answer, answerEffects, purpose, Purpose.requestId?]
    cases result <;> simp [emitAll, reportWith, failureLogs, givenItems, DiagnosticPlugin.attempt,
      validatorPlugin, Attempt.of, pullEffects, validatorName]
  | diagnose id =>
    cases result <;> simp [outbox_answer, answerEffects, purpose, Purpose.requestId?, diagnoseEffects]
  | settings id => simp

/-- A turn says what is computed from its look-up. -/
theorem outbox_proceed (session : Session) (task : Task) (subject : Subject) (version : Json)
    (lookup : Lookup) :
    (session.proceed task subject version lookup).outbox =
      session.outbox ++ session.turnEffects task subject version lookup := by
  unfold proceed turnEffects
  cases lookup with
  | waiting request => simp [updateTask]
  | cancelled => simp only [outbox_endTask, outbox_answer]
  | fault fault =>
    cases task.purpose with
    | settings id => simp only [outbox_endTask, outbox_answer]
    | _ => simp only [outbox_endTask, outbox_finishValidation]
  | found settings =>
    cases task.purpose with
    | settings id => simp only [outbox_endTask, outbox_answer]
    | _ =>
      simp only [outbox_endTask, validateWith]
      cases session.subjectDocument task.uri subject with
      | none => simp
      | some document => exact outbox_finishValidation ..

/-- What a job says. -/
inductive Spoken (session : Session) : Job → List Effect → Prop where
  /-- It has nothing to do with a task, or there is nothing to do. -/
  | plain {job : Job} {effects : List Effect}
      (plain : ∀ effect ∈ effects, effect.isPlain = true) : Spoken session job effects
  | dismissed {job : Job} (task : Task) (found : session.task? task.ticket = some task)
      (named : job = .start task.ticket ∨ job = .resume task.ticket)
      (cancelled : task.cancelled = true) : Spoken session job (answerEffects task .cancelled)
  | empty (task : Task) (found : session.task? task.ticket = some task)
      (new : task.stage = .created) (needs : ∀ id, task.purpose ≠ .settings id)
      (nothing : session.lacksPlugins task.purpose = true ∨ session.store.get? task.uri = none) :
      Spoken session (.start task.ticket) (answerEffects task (emptyResponse task.purpose))
  | turn {job : Job} {turn : Turn} {after : Session} (takes : session.Takes job turn after) :
      Spoken session job (after.turnEffects turn.task turn.subject turn.version turn.lookup)

/-- How a job takes up a task, with the session after it. -/
inductive Spent (session : Session) (job : Job) (task : Task) (later : Session) : Prop where
  | cancelled (cancelled : task.cancelled = true)
      (ends : later = (session.answer task .cancelled).endTask task)
  | empty (needs : ∀ id, task.purpose ≠ .settings id)
      (nothing : session.lacksPlugins task.purpose = true ∨ session.store.get? task.uri = none)
      (new : task.stage = .created)
  | turn (turn : Turn) (after : Session) (takes : session.Takes job turn after)
      (own : turn.task = task)

/-- A look-up touches only requests, entries and the list of jobs. -/
structure OnlyAsks (session later : Session) : Prop where
  ground : session.SameGround later
  tasks : later.tasks = session.tasks
  outbox : later.outbox = session.outbox
  transport : later.transport = session.transport

private theorem onlyAsks_learn (session : Session) (request : Ticket) (outcome : Outcome) :
    session.OnlyAsks (session.learn request outcome).2 := by
  rcases session.learn_cases request outcome with same | ⟨_, same, _⟩ <;> rw [same] <;>
    exact ⟨⟨rfl, rfl, rfl, rfl, rfl⟩, rfl, rfl, rfl⟩

theorem Takes.onlyAsks {session after : Session} {job : Job} {turn : Turn}
    (takes : session.Takes job turn after) (wired : session.Wired) : session.OnlyAsks after := by
  cases takes with
  | first task =>
    have spec := wired.lookUp task.uri
    generalize (session.lookUp task.uri).1 = lookup at spec
    generalize (session.lookUp task.uri).2 = later at spec ⊢
    cases spec with
    | learned request outcome => exact session.onlyAsks_learn request outcome
    | early => exact ⟨.refl session, rfl, rfl, rfl⟩
    | shared => exact ⟨.refl session, rfl, rfl, rfl⟩
    | asked => exact ⟨⟨rfl, rfl, rfl, rfl, rfl⟩, rfl, rfl, rfl⟩
    | joined => exact ⟨.refl session, rfl, rfl, rfl⟩
  | later task request subject version outcome => exact session.onlyAsks_learn request outcome

theorem Takes.found {session after : Session} {job : Job} {turn : Turn}
    (takes : session.Takes job turn after) :
    session.task? turn.task.ticket = some turn.task ∧ turn.task.cancelled = false ∧
      turn.task.uri = job.uri := by
  cases takes with
  | first task version found new live => exact ⟨found, live, rfl⟩
  | later task request subject version outcome found waits live => exact ⟨found, live, rfl⟩

/-- A look-up that need not wait finds that there is no cache, that the client cannot be asked, or
what a request for the document led to. -/
theorem Takes.source {session after : Session} {job : Job} {turn : Turn}
    (takes : session.Takes job turn after) (wired : session.Wired)
    (settled : ∀ request, turn.lookup ≠ .waiting request) :
    (session.cache = none ∧ turn.lookup = .found .default) ∨
      (∃ cache, session.cache = some cache ∧ session.asksClient = false ∧
        turn.lookup = .found cache.global) ∨
      ∃ request outcome, request.uri = turn.task.uri ∧ session.outcome? request = some outcome ∧
        turn.lookup = (session.learn request outcome).1 := by
  cases takes with
  | first task =>
    have spec := wired.lookUp task.uri
    simp only at settled ⊢
    generalize (session.lookUp task.uri).1 = lookup at spec settled ⊢
    generalize (session.lookUp task.uri).2 = later at spec
    cases spec with
    | early absent => exact .inl ⟨absent, rfl⟩
    | shared cache present silent => exact .inr (.inl ⟨cache, present, silent, rfl⟩)
    | asked => exact absurd rfl (settled _)
    | joined => exact absurd rfl (settled _)
    | learned request outcome here known => exact .inr (.inr ⟨request, outcome, here, known, rfl⟩)
  | later task request subject version outcome held waits live known =>
    have here := (wired.waits_asked task (mem_of_task? held) request subject version waits).1
    exact .inr (.inr ⟨request, outcome, here, known, rfl⟩)

/-- The settings that a look-up for a document may give: the default ones if there is no cache or
the request failed, those of the client if it cannot be asked, or those it replied. -/
def Grants (session : Session) (uri : String) (settings : Settings) : Prop :=
  (session.cache = none ∧ settings = .default) ∨
    (∃ cache, session.cache = some cache ∧ session.asksClient = false ∧ settings = cache.global) ∨
    ∃ request, request.uri = uri ∧
      (session.outcome? request = some (.settings settings) ∨
        (session.outcome? request = some .failed ∧ settings = .default))

theorem Takes.grants {session after : Session} {job : Job} {turn : Turn} {settings : Settings}
    (takes : session.Takes job turn after) (wired : session.Wired)
    (found : turn.lookup = .found settings) : session.Grants turn.task.uri settings := by
  rcases takes.source wired (by simp [found]) with
    ⟨absent, same⟩ | ⟨cache, present, silent, same⟩ | ⟨request, outcome, here, known, same⟩
  · cases found.symm.trans same
    exact .inl ⟨absent, rfl⟩
  · cases found.symm.trans same
    exact .inr (.inl ⟨cache, present, silent, rfl⟩)
  · refine .inr (.inr ⟨request, here, ?_⟩)
    cases outcome with
    | settings given =>
      cases found.symm.trans same
      exact .inl known
    | failed =>
      cases found.symm.trans same
      exact .inr ⟨known, rfl⟩
    | fault fault => cases found.symm.trans same
    | cancelled => cases found.symm.trans same

private theorem learn_eq_fault {session : Session} {request : Ticket} {outcome : Outcome} {fault : Fault}
    (learned : (session.learn request outcome).1 = .fault fault) : outcome = .fault fault := by
  cases outcome <;> cases learned
  rfl

theorem learn_eq_cancelled {session : Session} {request : Ticket} {outcome : Outcome}
    (learned : (session.learn request outcome).1 = .cancelled) : outcome = .cancelled := by
  cases outcome <;> cases learned
  rfl

/-- A look-up meets a fault only if a request for the document led to it. -/
theorem Takes.faulted {session after : Session} {job : Job} {turn : Turn} {fault : Fault}
    (takes : session.Takes job turn after) (wired : session.Wired)
    (looked : turn.lookup = .fault fault) :
    ∃ request, request.uri = turn.task.uri ∧ session.outcome? request = some (.fault fault) := by
  rcases takes.source wired (by simp [looked]) with
    ⟨_, same⟩ | ⟨_, _, _, same⟩ | ⟨request, outcome, here, known, same⟩
  · cases looked.symm.trans same
  · cases looked.symm.trans same
  · cases learn_eq_fault (same.symm.trans looked)
    exact ⟨request, here, known⟩

/-- A look-up is cancelled only if a request for the document was. -/
theorem Takes.refused {session after : Session} {job : Job} {turn : Turn}
    (takes : session.Takes job turn after) (wired : session.Wired)
    (looked : turn.lookup = .cancelled) :
    ∃ request, request.uri = turn.task.uri ∧ session.outcome? request = some .cancelled := by
  rcases takes.source wired (by simp [looked]) with
    ⟨_, same⟩ | ⟨_, _, _, same⟩ | ⟨request, outcome, here, known, same⟩
  · cases looked.symm.trans same
  · cases looked.symm.trans same
  · cases learn_eq_cancelled (same.symm.trans looked)
    exact ⟨request, here, known⟩

private theorem Turns.spoken {session later : Session} {job : Job} (turns : session.Turns job later)
    (wired : session.Wired) :
    ∃ effects, later.outbox = session.outbox ++ effects ∧ session.Spoken job effects := by
  cases turns with
  | idle => exact ⟨[], by simp, .plain (by simp)⟩
  | dismiss task found named cancelled =>
    exact ⟨_, by rw [outbox_endTask, outbox_answer], .dismissed task found named cancelled⟩
  | empty task found new live needs nothing =>
    exact ⟨_, by rw [endEmpty, outbox_endTask, outbox_answer], .empty task found new needs nothing⟩
  | turn takes =>
    exact ⟨_, by rw [outbox_proceed, (takes.onlyAsks wired).outbox], .turn takes⟩

/-- A job about a task keeps the others. -/
theorem Turns.task {session later : Session} {job : Job} (turns : session.Turns job later)
    (wired : session.Wired) {task : Task} (member : task ∈ session.tasks) :
    task ∈ later.tasks ∨ session.Spent job task later := by
  have ended {held : Task} {response : Response} (found : session.task? held.ticket = some held)
      (spent : held = task →
        session.Spent job task ((session.answer held response).endTask held)) :
      task ∈ ((session.answer held response).endTask held).tasks ∨
        session.Spent job task ((session.answer held response).endTask held) := by
    by_cases same : task.ticket = held.ticket
    · exact .inr (spent (wired.task_unique (mem_of_task? found) member same.symm))
    · left
      rw [tasks_endTask, answer_eq_emitAll]
      exact List.mem_filter.mpr ⟨member, by simpa using same⟩
  cases turns with
  | idle => exact .inl member
  | dismiss held found named cancelled =>
    refine ended found ?_
    rintro rfl
    exact .cancelled cancelled rfl
  | empty held found new live needs nothing =>
    refine ended found ?_
    rintro rfl
    exact .empty needs nothing new
  | @turn _ turn after takes =>
    by_cases same : task.ticket = turn.task.ticket
    · obtain rfl := wired.task_unique member (mem_of_task? takes.found.1) same
      exact .inr (.turn turn after takes rfl)
    · left
      have kept : (after.proceed turn.task turn.subject turn.version turn.lookup).task? task.ticket =
          some task := by
        rw [task?_proceed, if_neg same]
        unfold task?
        rw [(takes.onlyAsks wired).tasks]
        exact wired.task_of_mem member
      exact mem_of_task? kept

/-- Jobs about requests only log or ask, and touch no task. -/
theorem outbox_sendRequest (session : Session) (ticket : Ticket) :
    (session.sendRequest ticket).tasks = session.tasks ∧
      ∃ effects, (session.sendRequest ticket).outbox = session.outbox ++ effects ∧
        ∀ effect ∈ effects, effect.isPlain = true := by
  unfold sendRequest
  split
  · split
    · obtain ⟨fault, grown⟩ := session.outbox_settleRequest ticket (.fault (.reported .timeout ""))
      exact ⟨session.tasks_settleRequest ticket _, _, grown, plain_fetchEffects ticket fault _⟩
    · exact ⟨rfl, [.askSettings ticket.uri], rfl, by simp [Effect.isPlain]⟩
  · exact ⟨rfl, [], by simp, by simp⟩

theorem outbox_deliverReply (session : Session) (ticket : Ticket) :
    (session.deliverReply ticket).tasks = session.tasks ∧
      ∃ effects, (session.deliverReply ticket).outbox = session.outbox ++ effects ∧
        ∀ effect ∈ effects, effect.isPlain = true := by
  unfold deliverReply
  split
  · next reply _ =>
    obtain ⟨fault, grown⟩ := session.outbox_settleRequest ticket reply
    exact ⟨session.tasks_settleRequest ticket _, _, grown, plain_fetchEffects ticket fault _⟩
  · exact ⟨rfl, [], by simp, by simp⟩

/-- The session in which a job happens: it is off the list. -/
def taking (session : Session) (job : Job) : Session :=
  { session with ready := session.ready.erase job }

theorem perform_taking (session : Session) {job : Job} (ready : job ∈ session.ready) :
    session.run job = (session.taking job).perform job := by
  unfold run
  rw [if_pos ready]
  rfl

theorem run_of_not_ready (session : Session) {job : Job} (absent : job ∉ session.ready) :
    session.run job = session := by
  unfold run
  rw [if_neg absent]

private theorem spoken_perform (session : Session) (wired : session.Wired) (job : Job) :
    ∃ effects, (session.perform job).outbox = session.outbox ++ effects ∧
      session.Spoken job effects := by
  cases job with
  | start ticket => exact (session.turns_runStart ticket).spoken wired
  | resume ticket => exact (session.turns_runResume ticket).spoken wired
  | send ticket =>
    obtain ⟨_, effects, said, plain⟩ := session.outbox_sendRequest ticket
    exact ⟨effects, said, .plain plain⟩
  | deliver ticket =>
    obtain ⟨_, effects, said, plain⟩ := session.outbox_deliverReply ticket
    exact ⟨effects, said, .plain plain⟩
  | retire ticket =>
    refine ⟨[], ?_, .plain (by simp)⟩
    change (session.runRetire ticket).outbox = _
    rw [runRetire_frame, List.append_nil]

/-- A change says nothing. -/
theorem Change.outbox {session later : Session} {event : Event} (change : session.Change event later) :
    later.outbox = session.outbox := by
  cases change.rearranges <;> rfl

/-- What is said between two sessions when an event happens. -/
def Says (event : Event) (session later : Session) : Prop :=
  ∃ effects, later.outbox = session.outbox ++ effects ∧ ∀ effect ∈ effects, event.Justifies effect

namespace Says

variable {event : Event} {session later : Session}

theorem of_same (same : later.outbox = session.outbox) : Says event session later :=
  ⟨[], by rw [same, List.append_nil], by simp⟩

private theorem refl (event : Event) (session : Session) : Says event session session := of_same rfl

theorem trans {first second third : Session} (left : Says event first second)
    (right : Says event second third) : Says event first third := by
  obtain ⟨early, grown, justified⟩ := left
  obtain ⟨late, extended, explained⟩ := right
  refine ⟨early ++ late, by rw [extended, grown, List.append_assoc], fun effect member => ?_⟩
  rcases List.mem_append.mp member with before | after
  · exact justified effect before
  · exact explained effect after

private theorem publish (session : Session) (publication : Publication)
    (justified : event.Justifies (.publish publication)) :
    Says event session (session.publish publication).2 := by
  refine ⟨_, session.outbox_publish publication, fun effect member => ?_⟩
  split at member
  · cases List.mem_singleton.mp member
    exact justified
  · cases member

private theorem move {uri : String} (move : Move event uri session later) : Says event session later := by
  cases move with
  | tell effects told => exact ⟨effects, rfl, fun effect member => (told effect member).justifies⟩
  | answer id response runs =>
    refine ⟨[.respond uri id response], rfl, fun effect member => ?_⟩
    cases List.mem_singleton.mp member
    exact runs
  | push version diagnostics document limit runs => exact publish session _ (.inl runs)
  | notice closes => exact publish session _ (.inr ⟨closes, rfl⟩)
  | settle ticket reply =>
    obtain ⟨fault, grown⟩ := session.outbox_settleRequest ticket reply
    refine ⟨_, grown, ?_⟩
    unfold fetchEffects
    split <;> simp [fetchWarning, Event.Justifies]
  | schedule =>
    apply of_same
    change (session.cancelValidation uri).outbox = session.outbox
    rw [cancelValidation_frame]
  | takeBack => exact of_same (by rw [cancelValidation_frame])
  | cancel => exact of_same (by rw [cancelTask_frame])
  | finish => exact of_same (by rw [endTask_frame])
  | retire => exact of_same (by rw [runRetire_frame])
  | count => exact of_same rfl
  | refresh => exact of_same rfl
  | begin => exact of_same rfl
  | wait => exact of_same rfl
  | ask => exact of_same rfl
  | evict => exact of_same rfl
  | sent ticket =>
    exact ⟨[.askSettings ticket.uri], rfl, by simp [Event.Justifies]⟩
  | receive => exact of_same rfl

theorem moves (moves : AnyMoves event session later) : Says event session later :=
  moves.lift (refl event) trans move

private theorem change (change : session.Change event later) : Says event session later :=
  of_same change.outbox

end Says

/-- What an event says. -/
def emitted (session : Session) (event : Event) : List Effect :=
  (session.step event).outbox.drop session.outbox.length

theorem emitted_eq {session : Session} {event : Event} {effects : List Effect}
    (grown : (session.step event).outbox = session.outbox ++ effects) :
    session.emitted event = effects := by
  unfold emitted
  rw [grown, List.drop_left]

theorem Wired.says_step {session : Session} (wired : session.Wired) (event : Event) :
    Says event session (session.step event) := by
  obtain ⟨middle, change, moves⟩ := wired.change_step event
  exact (Says.change change).trans (.moves moves)

/-- Nothing that was said is taken back. -/
theorem Wired.outbox_step {session : Session} (wired : session.Wired) (event : Event) :
    (session.step event).outbox = session.outbox ++ session.emitted event := by
  obtain ⟨effects, grown, _⟩ := wired.says_step event
  rw [emitted_eq grown, grown]

/-- Publications and answers are made by jobs, except for the notices of closed documents. -/
theorem Wired.justified {session : Session} (wired : session.Wired) {event : Event}
    {effect : Effect} (member : effect ∈ session.emitted event) : event.Justifies effect := by
  obtain ⟨effects, grown, justified⟩ := wired.says_step event
  rw [emitted_eq grown] at member
  exact justified effect member

/-- A job says one of the listed things, and one that cannot happen says nothing. -/
theorem Wired.spoken {session : Session} (wired : session.Wired) (job : Job) :
    (job ∈ session.ready ∧ (session.taking job).Spoken job (session.emitted (.run job))) ∨
      session.emitted (.run job) = [] := by
  by_cases ready : job ∈ session.ready
  · left
    obtain ⟨effects, grown, spoken⟩ :=
      spoken_perform (session.taking job) (wired.change (.ran job ready)) job
    have performed : (session.step (.run job)).outbox = session.outbox ++ effects := by
      rw [← session.perform_taking ready] at grown
      exact grown
    rw [emitted_eq performed]
    exact ⟨ready, spoken⟩
  · right
    apply emitted_eq
    change (session.run job).outbox = _
    rw [run_of_not_ready session ready, List.append_nil]

/-- A job keeps every task that it does not take up. -/
theorem Wired.task_run {session : Session} (wired : session.Wired) {job : Job}
    (ready : job ∈ session.ready) {task : Task} (member : task ∈ session.tasks) :
    task ∈ (session.step (.run job)).tasks ∨
      (session.taking job).Spent job task (session.step (.run job)) := by
  have taken : (session.taking job).Wired := wired.change (.ran job ready)
  change task ∈ (session.run job).tasks ∨ (session.taking job).Spent job task (session.run job)
  rw [session.perform_taking ready]
  cases job with
  | start ticket => exact (turns_runStart _ ticket).task taken member
  | resume ticket => exact (turns_runResume _ ticket).task taken member
  | send ticket => exact .inl ((outbox_sendRequest _ ticket).1.symm ▸ member)
  | deliver ticket => exact .inl ((outbox_deliverReply _ ticket).1.symm ▸ member)
  | retire ticket => exact .inl ((tasks_runRetire _ ticket).symm ▸ member)

/-- A task that takes a turn says what is computed from its look-up. -/
theorem Takes.emitted {session after : Session} {job : Job} {turn : Turn}
    (takes : (session.taking job).Takes job turn after) (ready : job ∈ session.ready)
    (wired : session.Wired) :
    session.emitted (.run job) =
      after.turnEffects turn.task turn.subject turn.version turn.lookup := by
  have asks := takes.onlyAsks (wired.change (.ran job ready))
  apply emitted_eq
  change (session.run job).outbox = _
  rw [session.perform_taking ready, takes.perform_eq, outbox_proceed, asks.outbox]
  rfl

/-- A task that takes a turn goes on to wait, or is gone. -/
theorem Takes.task?_step {session after : Session} {job : Job} {turn : Turn}
    (takes : (session.taking job).Takes job turn after) (ready : job ∈ session.ready)
    (wired : session.Wired) :
    (session.step (.run job)).task? turn.task.ticket =
      match turn.lookup with
      | .waiting request =>
          some { turn.task with stage := .waiting request turn.subject turn.version }
      | _ => none := by
  have asks := takes.onlyAsks (wired.change (.ran job ready))
  have held : after.task? turn.task.ticket = some turn.task := by
    unfold task?
    rw [asks.tasks]
    exact takes.found.1
  change (session.run job).task? _ = _
  rw [session.perform_taking ready, takes.perform_eq, task?_proceed, if_pos rfl, held]
  rfl

end Session

end HazeServer
