import HazeServer.Proofs.Session.Saying
import HazeServer.Rule.Uppercase
import Mathlib.Data.List.Induction
import Mathlib.Data.List.TakeWhile

/-! # What a pull reports on

A pull that has to wait for settings holds on to the record of its document. Changes are made in
that record, so the report is about the text stored at the moment of the answer. But a document that
is opened anew gets another record, and one that is closed has none: a pull that is waiting then
reports on the text as it was right before.
-/

namespace HazeServer

namespace Session

/-- The record of a document that is held through some events by whoever has it before them: the one
stored right before the first of them that opens the document anew or closes it. -/
def keptRecord (session : Session) (uri : String) (events : List Event) : Option Document :=
  (session.runAll (events.takeWhile fun event => !event.renews uri)).store.get? uri

section Kept

variable (session : Session) {uri : String} {events : List Event}

theorem takeWhile_of_calm (calm : ∀ event ∈ events, event.renews uri = false) :
    (events.takeWhile fun event => !event.renews uri) = events := by
  apply List.takeWhile_eq_self_iff.mpr
  intro event member
  rw [calm event member, Bool.not_false]

theorem keptRecord_of_calm (calm : ∀ event ∈ events, event.renews uri = false) :
    session.keptRecord uri events = (session.runAll events).store.get? uri := by
  unfold keptRecord
  rw [takeWhile_of_calm calm]

theorem keptRecord_concat_of_renewed (renewed : ∃ event ∈ events, event.renews uri = true)
    (event : Event) : session.keptRecord uri (events ++ [event]) = session.keptRecord uri events := by
  have short : (events.takeWhile fun event => !event.renews uri).length ≠ events.length := by
    intro full
    have all := (List.takeWhile_prefix _).eq_of_length full
    obtain ⟨other, member, renews⟩ := renewed
    have calm := List.takeWhile_eq_self_iff.mp all other member
    rw [renews] at calm
    cases calm
  unfold keptRecord
  rw [List.takeWhile_append, if_neg short]

private theorem keptRecord_concat_of_renewing (calm : ∀ event ∈ events, event.renews uri = false)
    {event : Event} (renews : event.renews uri = true) :
    session.keptRecord uri (events ++ [event]) = (session.runAll events).store.get? uri := by
  unfold keptRecord
  rw [List.takeWhile_append, takeWhile_of_calm calm, if_pos rfl]
  simp [renews]

end Kept

/-- An open document stays open unless it is opened anew or closed. -/
theorem Wired.stored_step {session : Session} (wired : session.Wired) {event : Event} {uri : String}
    (kept : event.renews uri = false) (stored : (session.store.get? uri).isSome) :
    ((session.step event).store.get? uri).isSome := by
  have recorded := wired.recorded event uri
  generalize (session.step event).store.get? uri = later at recorded ⊢
  cases recorded with
  | same => exact stored
  | opened => rfl
  | edited => rfl
  | closed closes =>
    subst closes
    simp [Event.renews, Event.closes] at kept

/-- A task has been waiting through the last events of a run, since its first turn. It is about the
stored record, or about the one it has kept since that was replaced or removed. -/
def Suspended (start : Session) (events : List Event) (task : Task) (subject : Subject) : Prop :=
  ∃ first during held, events = first ++ during ∧
    during.head? = some (.run (.start task.ticket)) ∧
    (start.runAll first).task? task.ticket = some held ∧ held.stage = .created ∧
    held.purpose = task.purpose ∧
    match subject with
    | .stored =>
        (∀ event ∈ during, event.renews task.uri = false) ∧
          ((start.runAll events).store.get? task.uri).isSome
    | .withdrawn document =>
        (∃ event ∈ during, event.renews task.uri = true) ∧
          (start.runAll first).keptRecord task.uri during = some document

theorem head?_concat {events : List Event} {event head : Event} (first : events.head? = some head) :
    (events ++ [event]).head? = some head := by
  rw [List.head?_append, first, Option.some_or]

section Suspension

variable {start : Session} {events : List Event} {event : Event} {task : Task}

/-- An event that leaves the record alone leaves a waiting task with the record it has. -/
theorem Suspended.stay {subject : Subject} (suspended : start.Suspended events task subject)
    (wired : start.Wired)
    (untouched : event.renews task.uri = true → (start.runAll events).store.get? task.uri = none) :
    start.Suspended (events ++ [event]) task subject := by
  obtain ⟨first, during, held, rfl, began, found, new, purpose, about⟩ := suspended
  refine ⟨first, during ++ [event], held, (List.append_assoc ..), head?_concat began, found, new,
    purpose, ?_⟩
  cases subject with
  | withdrawn document =>
    obtain ⟨⟨other, member, renewed⟩, kept⟩ := about
    refine ⟨⟨other, List.mem_append_left _ member, renewed⟩, ?_⟩
    rw [keptRecord_concat_of_renewed _ ⟨other, member, renewed⟩]
    exact kept
  | stored =>
    obtain ⟨calm, stored⟩ := about
    have stays : event.renews task.uri = false := by
      refine Bool.eq_false_iff.mpr fun renewed => ?_
      rw [untouched renewed] at stored
      cases stored
    refine ⟨fun other member => ?_, ?_⟩
    · rcases List.mem_append.mp member with before | last
      · exact calm other before
      · rw [List.mem_singleton.mp last, stays]
    · rw [runAll_concat]
      exact (wired.runAll _).stored_step stays stored

/-- An event that replaces or removes the record leaves it with the waiting task. -/
theorem Suspended.withdraw {subject : Subject} {document : Document}
    (suspended : start.Suspended events task subject) (renewed : event.renews task.uri = true)
    (stored : (start.runAll events).store.get? task.uri = some document) :
    start.Suspended (events ++ [event]) task (subject.withdraw document) := by
  obtain ⟨first, during, held, rfl, began, found, new, purpose, about⟩ := suspended
  refine ⟨first, during ++ [event], held, (List.append_assoc ..), head?_concat began, found, new,
    purpose, ?_⟩
  cases subject with
  | withdrawn earlier =>
    obtain ⟨⟨other, member, before⟩, kept⟩ := about
    refine ⟨⟨other, List.mem_append_left _ member, before⟩, ?_⟩
    rw [keptRecord_concat_of_renewed _ ⟨other, member, before⟩]
    exact kept
  | stored =>
    refine ⟨⟨event, List.mem_append_right _ (List.mem_singleton.mpr rfl), renewed⟩, ?_⟩
    rw [keptRecord_concat_of_renewing _ about.1 renewed, ← runAll_append]
    exact stored

private theorem Suspended.of_same {subject : Subject} {other : Task}
    (suspended : start.Suspended events other subject) (ticket : task.ticket = other.ticket)
    (purpose : task.purpose = other.purpose) : start.Suspended events task subject := by
  unfold Suspended Task.uri at *
  rw [ticket, purpose]
  exact suspended

/-- A task that begins to wait is about the stored record. -/
theorem suspended_of_start (wired : start.Wired) {held : Task} {version : Json}
    (member : held ∈ (start.runAll events).tasks) (new : held.stage = .created)
    (needs : ∀ id, held.purpose ≠ .settings id) (sees : (start.runAll events).Sees held version) :
    start.Suspended (events ++ [.run (.start held.ticket)]) held .stored := by
  have stored : ((start.runAll events).store.get? held.uri).isSome := by
    unfold Sees at sees
    split at sees
    · next id asks => exact absurd asks (needs id)
    · rw [← Option.isSome_map, sees.2]
      rfl
  refine ⟨events, [.run (.start held.ticket)], held, rfl, rfl, (wired.runAll events).task_of_mem member,
    new, rfl, ?_, ?_⟩
  · intro event only
    cases List.mem_singleton.mp only
    rfl
  · rw [runAll_concat]
    exact (wired.runAll events).stored_step rfl stored

end Suspension

/-- Whoever waits with a document has waited since its first turn. -/
theorem suspended_runAll {start : Session} (wired : start.Wired) (blank : start.tasks = [])
    (events : List Event) {task : Task} (member : task ∈ (start.runAll events).tasks)
    {request : Ticket} {subject : Subject} {version : Json}
    (waits : task.stage = .waiting request subject version)
    (needs : ∀ id, task.purpose ≠ .settings id) : start.Suspended events task subject := by
  induction events using List.reverseRecOn generalizing task subject with
  | nil =>
    rw [show (start.runAll []).tasks = [] from blank] at member
    cases member
  | append_singleton events event step =>
    rw [runAll_concat] at member
    cases (wired.runAll events).stems member with
    | kept held before named same stays untouched =>
      have suspended := step before (stays ▸ waits) (same ▸ needs)
      exact (suspended.stay wired untouched).of_same named same
    | withdrawn held document before named same renewed stored moved =>
      rw [waits] at moved
      cases stage : held.stage with
      | created =>
        rw [stage] at moved
        cases moved
      | waiting awaited about seen =>
        rw [stage] at moved
        cases moved
        have suspended := step before stage (same ▸ needs)
        exact (suspended.withdraw renewed stored).of_same named same
    | waits held awaited seen before named same starts new sees began =>
      rw [waits] at began
      cases began
      subst starts
      exact (suspended_of_start wired before new (same ▸ needs) sees).of_same named same
    | new created =>
      rw [waits] at created
      cases created

/-- What validating a document comes to: what is found within the limit of the settings that a
look-up may give, or the fault that the look-up met. -/
def Judges (session : Session) (uri : String) (document : Document)
    (result : Except Fault (List Diagnostic)) : Prop :=
  (∃ settings, session.Grants uri settings ∧
      result = (session.rule.validate (showsRelated session.client) settings.problemLimit
        document).result) ∨
    ∃ fault request, request.uri = uri ∧ session.outcome? request = some (.fault fault) ∧
      result = .error fault

/-- Some events begin with the first turn of a task for a document. -/
def Begins (session : Session) (uri : String) (purpose : Purpose) (events : List Event) : Prop :=
  ∃ task, session.task? task.ticket = some task ∧ task.uri = uri ∧ task.purpose = purpose ∧
    task.stage = .created ∧ events.head? = some (.run (.start task.ticket))

/-- A task that takes a turn has kept the record of its document since its first turn. -/
theorem Takes.record {start after : Session} {events : List Event} {job : Job} {turn : Turn}
    (takes : ((start.runAll events).taking job).Takes job turn after) (wired : start.Wired)
    (blank : start.tasks = []) (needs : ∀ id, turn.task.purpose ≠ .settings id) :
    ∃ first during document, events = first ++ during ∧
      (start.runAll first).Begins turn.task.uri turn.task.purpose (during ++ [.run job]) ∧
      (start.runAll first).keptRecord turn.task.uri during = some document ∧
      (start.runAll events).subjectDocument turn.task.uri turn.subject = some document := by
  cases takes with
  | first task version found new live sees =>
    unfold Sees at sees
    split at sees
    · next id asks => exact absurd asks (needs id)
    · obtain ⟨document, held, _⟩ := Option.map_eq_some_iff.mp sees.2
      exact ⟨events, [], document, (List.append_nil events).symm, ⟨task, found, rfl, rfl, new, rfl⟩,
        held, held⟩
  | later task request subject version outcome found waits =>
    obtain ⟨first, during, held, rfl, began, before, new, purpose, about⟩ :=
      suspended_runAll wired blank events (mem_of_task? found) waits needs
    have begins : (start.runAll first).Begins task.uri task.purpose
        (during ++ [.run (.resume task.ticket)]) := by
      have ticket := ticket_of_task? before
      refine ⟨held, by rw [ticket]; exact before, ?_, purpose, new, ?_⟩
      · rw [Task.uri, ticket]
        rfl
      · rw [ticket]
        exact head?_concat began
    cases subject with
    | stored =>
      obtain ⟨calm, stored⟩ := about
      obtain ⟨document, stored⟩ := Option.isSome_iff_exists.mp stored
      refine ⟨first, during, document, rfl, begins, ?_, stored⟩
      rw [keptRecord_of_calm _ calm, ← runAll_append]
      exact stored
    | withdrawn document => exact ⟨first, during, document, rfl, begins, about.2, rfl⟩

theorem respond_mem_answerEffects {task : Task} {response given : Response} {uri : String}
    {id : RequestId} (member : .respond uri id given ∈ answerEffects task response) :
    task.purpose.requestId? = some id ∧ task.uri = uri ∧ given = response := by
  unfold answerEffects at member
  cases answers : task.purpose.requestId? with
  | none => simp [answers] at member
  | some other =>
    simp only [answers, Option.map_some, Option.toList_some, List.mem_singleton,
      Effect.respond.injEq] at member
    obtain ⟨rfl, rfl, rfl⟩ := member
    exact ⟨rfl, rfl, rfl⟩

private theorem report_mem_resultEffects {session : Session} {task : Task} {subject : Subject}
    {version : Json} {result : Except Fault (List Diagnostic)} {uri : String} {id : RequestId}
    {items : List Diagnostic}
    (member : .respond uri id (.report items) ∈ session.resultEffects task subject version result) :
    task.purpose = .pull id ∧ task.uri = uri := by
  unfold resultEffects at member
  cases purpose : task.purpose with
  | push =>
    simp only [purpose, pushEffects] at member
    split at member
    · simp [validationFailure] at member
    · split at member <;> simp at member
  | pull other =>
    cases result <;> simp [purpose, pullEffects, pluginFailure] at member <;>
      exact ⟨by rw [member.2.1], member.1.symm⟩
  | diagnose other => cases result <;> simp [purpose, diagnoseEffects] at member
  | settings other => simp [purpose] at member

/-- Only a pull reports. -/
theorem report_mem_turnEffects {session : Session} {task : Task} {subject : Subject} {version : Json}
    {lookup : Lookup} {uri : String} {id : RequestId} {items : List Diagnostic}
    (member : .respond uri id (.report items) ∈ session.turnEffects task subject version lookup) :
    task.purpose = .pull id ∧ task.uri = uri := by
  unfold turnEffects at member
  split at member
  · cases member
  · cases (respond_mem_answerEffects member).2.2
  · split at member
    · cases (respond_mem_answerEffects member).2.2
    · exact report_mem_resultEffects member
  · split at member
    · cases (respond_mem_answerEffects member).2.2
    · split at member
      · cases member
      · exact report_mem_resultEffects member

/-- What a pull says is the outcome of validating the record it has kept. -/
theorem Takes.judged {session after : Session} {job : Job} {turn : Turn}
    (takes : session.Takes job turn after) (wired : session.Wired) {id : RequestId}
    (pull : turn.task.purpose = .pull id) {document : Document}
    (about : session.subjectDocument turn.task.uri turn.subject = some document)
    {uri : String} {items : List Diagnostic}
    (member : .respond uri id (.report items) ∈
      after.turnEffects turn.task turn.subject turn.version turn.lookup) :
    ∃ result, session.Judges turn.task.uri document result ∧
      after.turnEffects turn.task turn.subject turn.version turn.lookup =
        pullEffects turn.task.uri id result := by
  have ground := (takes.onlyAsks wired).ground
  have same : after.subjectDocument turn.task.uri turn.subject = some document := by
    rw [← about]
    unfold subjectDocument
    rw [ground.store]
  cases looked : turn.lookup with
  | waiting request =>
    rw [looked] at member
    cases member
  | cancelled =>
    rw [looked] at member
    cases (respond_mem_answerEffects member).2.2
  | fault fault =>
    obtain ⟨request, here, settled⟩ := takes.faulted wired looked
    exact ⟨.error fault, .inr ⟨fault, request, here, settled, rfl⟩,
      by simp only [turnEffects, pull, resultEffects]⟩
  | found settings =>
    refine ⟨_, .inl ⟨settings, takes.grants wired looked, rfl⟩, ?_⟩
    simp only [turnEffects, pull, same, resultEffects, ground.rule, ground.client]

/-- A pull reports nothing if there is nothing to validate at its first turn. Otherwise it reports on
the record that it has kept since then: the stored one, unless the document was opened anew or closed
while the pull was waiting, and else the one stored right before that. -/
theorem pull_reports_on_kept_record (rule : Rule) (hasPlugins : Bool) (events : List Event)
    (event : Event) (uri : String) (id : RequestId) (items : List Diagnostic)
    (answered : .respond uri id (.report items) ∈
      ((fresh rule hasPlugins).runAll events).emitted event) :
    (items = [] ∧ ((fresh rule hasPlugins).runAll events).Begins uri (.pull id) [event] ∧
        (((fresh rule hasPlugins).runAll events).hasPlugins = false ∨
          ((fresh rule hasPlugins).runAll events).store.get? uri = none)) ∨
      ∃ first during document result, events = first ++ during ∧
        ((fresh rule hasPlugins).runAll first).Begins uri (.pull id) (during ++ [event]) ∧
        ((fresh rule hasPlugins).runAll first).keptRecord uri during = some document ∧
        ((fresh rule hasPlugins).runAll events).Judges uri document result ∧
        ((fresh rule hasPlugins).runAll events).emitted event = pullEffects uri id result ∧
        ((∀ other ∈ during, other.renews uri = false) →
          ((fresh rule hasPlugins).runAll events).store.get? uri = some document) := by
  have wired := Wired.fresh rule hasPlugins
  obtain ⟨job, rfl, _⟩ : event.RunsFor uri := (wired.runAll events).justified answered
  rcases (wired.runAll events).spoken job with ⟨ready, spoken⟩ | nothing
  · generalize said : ((fresh rule hasPlugins).runAll events).emitted (.run job) = effects at *
    cases spoken with
    | plain plain => cases plain _ answered
    | dismissed => cases (respond_mem_answerEffects answered).2.2
    | empty task found new needs nothing =>
      obtain ⟨answers, rfl, given⟩ := respond_mem_answerEffects answered
      cases purpose : task.purpose with
      | push => simp [purpose, Purpose.requestId?] at answers
      | settings other => exact absurd purpose (needs other)
      | diagnose other => simp [purpose, emptyResponse] at given
      | pull other =>
        simp only [purpose, emptyResponse, Response.report.injEq] at given
        simp only [purpose, Purpose.requestId?, Option.some.injEq] at answers
        refine .inl ⟨given, ⟨task, found, rfl, by rw [purpose, answers], new, rfl⟩, ?_⟩
        refine nothing.imp_left fun lacks => ?_
        rw [purpose] at lacks
        simpa [lacksPlugins, taking] using lacks
    | @turn _ turn after takes =>
      obtain ⟨pull, rfl⟩ := report_mem_turnEffects answered
      obtain ⟨first, during, document, split, begins, kept, about⟩ :=
        takes.record wired rfl (by simp [pull])
      obtain ⟨result, judges, pulled⟩ :=
        takes.judged ((wired.runAll events).change (.ran job ready)) pull about answered
      refine .inr ⟨first, during, document, result, split, pull ▸ begins, kept, judges, pulled, ?_⟩
      intro calm
      rw [keptRecord_of_calm _ calm, ← runAll_append, ← split] at kept
      exact kept
  · rw [nothing] at answered
    cases answered

/-- A document is closed while a pull for it waits for settings. -/
def closedWhileWaiting : List Event :=
  let uri := "file:///a.hz"
  [.handshake { support := { configuration := true } }, .opened uri "AA" ⟨.int 1, rfl⟩ .null,
    .ask uri (.pull (.number 1)), .run (.start ⟨uri, 1⟩), .run (.send ⟨uri, 2⟩), .closed uri,
    .reply ⟨uri, 2⟩ (.result (.list [.null])), .run (.deliver ⟨uri, 2⟩)]

theorem closedWhileWaiting_reported :
    ((fresh .uppercase true).runAll closedWhileWaiting).store.get? "file:///a.hz" = none ∧
      ∃ item, .respond "file:///a.hz" (.number 1) (.report [item]) ∈
          ((fresh .uppercase true).runAll closedWhileWaiting).emitted
            (.run (.resume ⟨"file:///a.hz", 1⟩)) ∧
        ∃ first during document result, closedWhileWaiting = first ++ during ∧
          ((fresh .uppercase true).runAll first).Begins "file:///a.hz" (.pull (.number 1))
            (during ++ [.run (.resume ⟨"file:///a.hz", 1⟩)]) ∧
          ((fresh .uppercase true).runAll first).keptRecord "file:///a.hz" during = some document ∧
          ((fresh .uppercase true).runAll closedWhileWaiting).Judges "file:///a.hz" document result ∧
          ((fresh .uppercase true).runAll closedWhileWaiting).emitted
              (.run (.resume ⟨"file:///a.hz", 1⟩)) =
            pullEffects "file:///a.hz" (.number 1) result ∧
          ((∀ other ∈ during, other.renews "file:///a.hz" = false) →
            ((fresh .uppercase true).runAll closedWhileWaiting).store.get? "file:///a.hz" =
              some document) := by
  have answered : ∃ item, .respond "file:///a.hz" (.number 1) (.report [item]) ∈
      ((fresh .uppercase true).runAll closedWhileWaiting).emitted
        (.run (.resume ⟨"file:///a.hz", 1⟩)) :=
    ⟨_, List.mem_singleton.mpr rfl⟩
  obtain ⟨item, answered⟩ := answered
  refine ⟨rfl, item, answered, ?_⟩
  have reported := pull_reports_on_kept_record .uppercase true closedWhileWaiting _ _ _ _ answered
  exact reported.resolve_left (by simp)

end Session

end HazeServer
