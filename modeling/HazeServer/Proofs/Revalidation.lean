import HazeServer.Proofs.Diagnostic
import HazeServer.Proofs.Document.Version
import HazeServer.Proofs.Session.Upkeep
import Mathlib.Data.List.Induction

/-! # No validation is lost

A push may be superseded, cancelled before it begins, made to wait for settings, or dropped because
its document has changed. Whatever the order of events, once the client owes no reply and no job is
left, every document has been dealt with: the last validation of an open one failed and was logged,
or what it found in the stored text is the last thing published for it, and the last thing published
for a closed one is the empty notice.
-/

namespace HazeServer

namespace Session

/-- An event ends a validation of a document: a push for it takes a turn and does not have to wait
for what its look-up gives. -/
def Validates (session : Session) (uri : String) (event : Event) (lookup : Lookup) : Prop :=
  ∃ job turn after, event = .run job ∧ job ∈ session.ready ∧
    (session.taking job).Takes job turn after ∧
    turn.task.purpose = .push ∧ turn.task.uri = uri ∧ turn.lookup = lookup ∧
    ∀ request, lookup ≠ .waiting request

/-- How a validation of a document ended, as seen from a later session. -/
inductive Ended (rule : Rule) (uri : String) (document : Document) (before : Session) (event : Event)
    (lookup : Lookup) (later : Session) : Prop where
  /-- It failed, and the failure is all that was said. -/
  | raised (fault : Fault)
      (cause : lookup = .fault fault ∨ ∃ settings, lookup = .found settings ∧
        (rule.validate (showsRelated before.client) settings.problemLimit document).result =
          .error fault)
      (logged : (before.step event).outbox = before.outbox ++ [validationFailure uri fault])
  /-- What it found is the last thing published for the document. -/
  | published (settings : Settings) (scan : Scan) (found : lookup = .found settings)
      (granted : before.Grants uri settings) (checked : rule.check document = .ok scan)
      (last : (publicationsFor uri later.outbox).getLast? =
        some ⟨uri, document.version, (scan.findings.take settings.problemLimit).map
          (Diagnostic.ofFinding (showsRelated before.client) uri)⟩)

theorem Takes.pushPending {session after : Session} {job : Job} {turn : Turn}
    (takes : session.Takes job turn after) (push : turn.task.purpose = .push) :
    session.PushPending job.uri := by
  obtain ⟨found, live, here⟩ := takes.found
  exact ⟨turn.task, mem_of_task? found, here, push, live⟩

private theorem Pushes.pushPending {session : Session} {event : Event} {publication : Publication}
    (pushes : session.Pushes event publication) : session.PushPending publication.uri := by
  obtain ⟨job, turn, after, _, _, _, _, takes, push, here, _⟩ := pushes
  rw [← here, takes.found.2.2]
  exact takes.pushPending push

/-- Only a pending push is validated. -/
theorem Validates.pushPending {session : Session} {uri : String} {event : Event} {lookup : Lookup}
    (validates : session.Validates uri event lookup) : session.PushPending uri := by
  obtain ⟨job, turn, after, _, _, takes, push, rfl, _⟩ := validates
  rw [takes.found.2.2]
  exact takes.pushPending push

/-- A validation ends without a word only if the client cancelled the request for its settings. -/
theorem Validates.cancelled_reply {start : Session} (wired : start.Wired)
    (blank : start.requests = []) {events : List Event} {uri : String} {event : Event}
    (validates : (start.runAll events).Validates uri event .cancelled) :
    ∃ number, .reply ⟨uri, number⟩ .cancelled ∈ events := by
  obtain ⟨job, turn, after, _, ready, takes, _, here, looked, _⟩ := validates
  obtain ⟨request, about, known⟩ :=
    takes.refused ((wired.runAll events).change (.ran job ready)) looked
  rcases explained_runAll wired blank events (outcome?_eq_some.mp known) with
    failed | ⟨reply, member, outcome⟩
  · cases failed
  · cases outcomeOf_eq_cancelled outcome.symm
    rw [← here, ← about]
    exact ⟨request.number, member⟩

/-- A push takes its turn with the stored document, at the stored version. -/
theorem Takes.current {session after : Session} {job : Job} {turn : Turn}
    (takes : session.Takes job turn after) (push : turn.task.purpose = .push)
    (current : session.CurrentFor turn.task.uri) :
    turn.subject = .stored ∧
      (session.store.get? turn.task.uri).map (·.version) = some turn.version := by
  cases takes with
  | first task version found new live sees =>
    unfold Sees at sees
    rw [show task.purpose = .push from push] at sees
    exact ⟨rfl, sees.2⟩
  | later task request subject version outcome found waits live settled =>
    exact current task (mem_of_task? found) rfl push live request subject version waits

/-- A push with the stored document, at the stored version, says what it found or why it failed. -/
theorem turnEffects_current {session : Session} {task : Task} {document : Document}
    (push : task.purpose = .push) (held : session.store.get? task.uri = some document)
    (sends : session.transport.publishFault = none)
    (sendable : isSendableVersion document.version = true) (settings : Settings) :
    session.turnEffects task .stored document.version (.found settings) =
      match (session.rule.validate (showsRelated session.client) settings.problemLimit
        document).result with
      | .error fault => [validationFailure task.uri fault]
      | .ok diagnostics => [.publish ⟨task.uri, document.version, diagnostics⟩] := by
  obtain ⟨number, given⟩ := asInt?_of_isSendableVersion sendable
  have current : session.isCurrent task.uri .stored document.version = true := by
    refine isCurrent_iff.mpr ⟨rfl, document, held, ?_⟩
    rw [Json.equals_of_asInt? given given, decide_eq_true rfl]
  simp only [turnEffects, resultEffects, push, subjectDocument, held]
  cases (session.rule.validate (showsRelated session.client) settings.problemLimit document).result with
  | error fault => rfl
  | ok diagnostics =>
    exact if_pos ⟨current, fault?_of_isSendableVersion task.uri diagnostics sendable, sends⟩

/-- What is said when a validation of a document ends. -/
def verdict (rule : Rule) (client : Option ClientSupport) (uri : String) (document : Document) :
    Lookup → List Effect
  | .found settings =>
      match (rule.validate (showsRelated client) settings.problemLimit document).result with
      | .error fault => [validationFailure uri fault]
      | .ok diagnostics => [.publish ⟨uri, document.version, diagnostics⟩]
  | .fault fault => [validationFailure uri fault]
  | _ => []

/-- A validation of an open document says what it found in it, or why it failed. -/
theorem Validates.emitted {rule : Rule} {session : Session} {uri : String} {event : Event}
    {lookup : Lookup} (validates : session.Validates uri event lookup) (wired : session.Wired)
    (orderly : Orderly rule session) (current : session.CurrentFor uri) {document : Document}
    (held : session.store.get? uri = some document) :
    session.emitted event = verdict rule session.client uri document lookup := by
  obtain ⟨job, turn, after, rfl, ready, takes, push, here, rfl, settled⟩ := validates
  have sendable := (orderly.documents uri document held).2
  have asks := takes.onlyAsks (wired.change (.ran job ready))
  obtain ⟨stored, seen⟩ := takes.current push (here ▸ current)
  have version : turn.version = document.version := by
    have same : (session.store.get? turn.task.uri).map (·.version) = some turn.version := seen
    rw [here, held] at same
    exact (Option.some.inj same).symm
  rw [takes.emitted ready wired, stored, version]
  cases looked : turn.lookup with
  | waiting request => exact absurd looked (settled request)
  | cancelled => simp [turnEffects, answerEffects, push, Purpose.requestId?, verdict]
  | fault fault => simp [turnEffects, resultEffects, push, pushEffects, here, verdict]
  | found settings =>
    have open' : after.store.get? turn.task.uri = some document := by
      rw [asks.ground.store, here]
      exact held
    have ruled : after.rule = rule := asks.ground.rule.trans orderly.rule_eq
    have same : after.client = session.client := asks.ground.client
    rw [turnEffects_current push open' (asks.transport ▸ orderly.sends) sendable settings, ruled, same,
      here]
    rfl

/-- A validation of an open document ends in a failure that is logged, or with what it found being
the last thing published. -/
theorem Validates.ended {rule : Rule} {session : Session} {uri : String} {event : Event}
    {lookup : Lookup} (validates : session.Validates uri event lookup) (wired : session.Wired)
    (orderly : Orderly rule session) (current : session.CurrentFor uri) {document : Document}
    (held : session.store.get? uri = some document) (granted : lookup ≠ .cancelled) :
    Ended rule uri document session event lookup (session.step event) := by
  have said := wired.outbox_step event
  rw [validates.emitted wired orderly current held] at said
  have about := (orderly.documents uri document held).1
  cases lookup with
  | waiting request =>
    obtain ⟨_, _, _, _, _, _, _, _, _, settled⟩ := validates
    exact absurd rfl (settled request)
  | cancelled => exact absurd rfl granted
  | fault fault => exact .raised fault (.inl rfl) said
  | found settings =>
    simp only [verdict] at said
    cases result : (rule.validate (showsRelated session.client) settings.problemLimit document).result with
    | error fault =>
      rw [result] at said
      exact .raised fault (.inr ⟨settings, rfl, result⟩) said
    | ok diagnostics =>
      rw [result] at said
      obtain ⟨scan, checked, _, _, rfl⟩ := Rule.validate_eq_ok.mp result
      obtain ⟨job, turn, after, rfl, ready, takes, _, rfl, looked, _⟩ := validates
      refine .published settings scan rfl (takes.grants (wired.change (.ran job ready)) looked) checked ?_
      rw [said, publicationsFor_append, about]
      simp [publicationsFor]

/-- The last validation of a document in a run, and how it ended. -/
def LastValidated (start : Session) (rule : Rule) (events : List Event) (uri : String)
    (document : Document) : Prop :=
  ∃ first event rest lookup, events = first ++ event :: rest ∧
    (start.runAll first).Validates uri event lookup ∧
    (∀ middle later, middle ++ [later] <+: rest → ∀ other,
      ¬ (start.runAll (first ++ event :: middle)).Validates uri later other) ∧
    Ended rule uri document (start.runAll first) event lookup (start.runAll events)

private theorem LastValidated.extend {start : Session} {rule : Rule} {events : List Event} {uri : String}
    {document : Document} (validated : start.LastValidated rule events uri document) {event : Event}
    (idle : ∀ lookup, ¬ (start.runAll events).Validates uri event lookup)
    (same : publicationsFor uri (start.runAll (events ++ [event])).outbox =
      publicationsFor uri (start.runAll events).outbox) :
    start.LastValidated rule (events ++ [event]) uri document := by
  obtain ⟨first, ending, rest, lookup, rfl, validates, none, ended⟩ := validated
  refine ⟨first, ending, rest ++ [event], lookup, by simp, validates, ?_, ?_⟩
  · intro middle later within other
    rcases List.prefix_concat_iff.mp within with last | before
    · obtain ⟨rfl, ends⟩ := List.append_inj' last rfl
      cases ends
      exact idle other
    · exact none middle later before other
  · cases ended with
    | raised fault cause logged => exact .raised fault cause logged
    | published settings scan found granted checked last =>
      exact .published settings scan found granted checked (same ▸ last)

/-- How a document stands after a run. -/
def Upheld (start : Session) (rule : Rule) (events : List Event) (uri : String) : Prop :=
  match (start.runAll events).store.get? uri with
  | none => (publicationsFor uri (start.runAll events).outbox).getLast? = some (closeNotice uri)
  | some document =>
      (start.runAll events).PushPending uri ∨ start.LastValidated rule events uri document

/-- After the notice that a document was closed, only more such notices are published for it. -/
theorem getLast?_closeNotice {before later : Session} {uri : String}
    (moves : AnyMoves (.closed uri)
      ((before.cancelValidation uri).emit (.publish (closeNotice uri))) later) :
    (publicationsFor uri later.outbox).getLast? = some (closeNotice uri) := by
  obtain ⟨effects, grown, justified⟩ := Says.moves moves
  have notices : ∀ publication ∈ publicationsFor uri effects, publication = closeNotice uri := by
    intro publication member
    obtain ⟨published, rfl⟩ := mem_publicationsFor.mp member
    rcases justified _ published with ⟨job, runs, _⟩ | ⟨_, notice⟩
    · cases runs
    · exact notice
  rw [grown, publicationsFor_append]
  cases last : (publicationsFor uri effects).getLast? with
  | none =>
    rw [List.getLast?_eq_none_iff.mp last, List.append_nil]
    simp [emit, publicationsFor, closeNotice]
  | some publication =>
    rw [List.getLast?_append, last, notices publication (List.mem_of_getLast? last)]
    rfl

/-- A push that takes a turn goes on to wait and stays pending, or its validation ends. -/
theorem Takes.pending_or_ended {session after : Session} {job : Job} {turn : Turn}
    (ready : job ∈ session.ready) (wired : session.Wired)
    (takes : (session.taking job).Takes job turn after)
    (push : turn.task.purpose = .push) :
    (session.step (.run job)).PushPending job.uri ∨
      session.Validates job.uri (.run job) turn.lookup := by
  obtain ⟨found, live, here⟩ := takes.found
  cases looked : turn.lookup with
  | waiting request =>
    have held := takes.task?_step ready wired
    rw [looked] at held
    exact .inl ⟨_, mem_of_task? held, here, push, live⟩
  | found settings =>
    exact .inr ⟨job, turn, after, rfl, ready, takes, push, here, looked, by simp⟩
  | fault fault => exact .inr ⟨job, turn, after, rfl, ready, takes, push, here, looked, by simp⟩
  | cancelled => exact .inr ⟨job, turn, after, rfl, ready, takes, push, here, looked, by simp⟩

/-- The push for an open document stays pending until its validation ends. -/
theorem PushPending.step_or_ended {session : Session} {uri : String}
    (pending : session.PushPending uri) (wired : session.Wired)
    (stored : (session.store.get? uri).isSome) {event : Event} (stays : event.closes uri = false)
    (proper : event.interferes = false) :
    (session.step event).PushPending uri ∨ ∃ lookup, session.Validates uri event lookup := by
  by_cases runs : event.RunsFor uri
  · obtain ⟨job, rfl, rfl⟩ := runs
    by_cases ready : job ∈ session.ready
    · obtain ⟨task, member, here, push, live⟩ := pending
      rcases wired.task_run ready member with
        kept | ⟨cancelled, _⟩ | ⟨_, nothing⟩ | ⟨turn, after, takes, rfl⟩
      · exact .inl ⟨task, kept, here, push, live⟩
      · rw [live] at cancelled
        cases cancelled
      · rcases nothing with lacks | absent
        · rw [push] at lacks
          cases lacks
        · rw [← here] at stored
          exact absurd stored (by rw [show session.store.get? task.uri = none from absent]; simp)
      · exact (takes.pending_or_ended ready wired push).imp_right fun ended => ⟨turn.lookup, ended⟩
    · left
      change (session.run job).PushPending job.uri
      rw [run_of_not_ready session ready]
      exact pending
  · exact .inl (pending.step wired runs stays proper)

/-- What an event means for the diagnostics of a document: it is closed and the notice of that is the
last publication, a push for it is pending, a validation of it has just ended, or nothing was
published and no push could have. -/
inductive Attended (session : Session) (event : Event) (uri : String) : Prop where
  | closed (absent : (session.step event).store.get? uri = none)
      (noticed : .publish (closeNotice uri) ∈ session.emitted event)
      (last : (publicationsFor uri (session.step event).outbox).getLast? = some (closeNotice uri))
  | pending (stored : ((session.step event).store.get? uri).isSome)
      (pending : (session.step event).PushPending uri)
  | validated (kept : event.renews uri = false)
      (same : (session.step event).store.get? uri = session.store.get? uri) (document : Document)
      (held : session.store.get? uri = some document) (lookup : Lookup)
      (validates : session.Validates uri event lookup)
  | idle (kept : event.renews uri = false)
      (same : (session.step event).store.get? uri = session.store.get? uri)
      (unpushed : (session.store.get? uri).isSome → ¬ session.PushPending uri)
      (quiet : publicationsFor uri (session.step event).outbox = publicationsFor uri session.outbox)

theorem Orderly.attended {rule : Rule} {session : Session} (orderly : Orderly rule session)
    (wired : session.Wired) {event : Event} (proper : event.interferes = false) (uri : String) :
    session.Attended event uri := by
  cases orderly.told_step wired proper uri with
  | closed before held closes absent moves grown =>
    subst closes
    exact .closed absent (notice_mem_emitted moves grown) (getLast?_closeNotice moves)
  | schedule before held calm stays stored moves =>
    exact .pending stored
      ((pushPending_schedule before uri).moves (held.schedule uri) moves calm stays proper)
  | nothing kept same =>
    have stays : event.closes uri = false := (Bool.or_eq_false_iff.mp kept).2
    cases stored : session.store.get? uri with
    | none =>
      refine .idle kept same (by simp [stored]) (wired.publications_absent stored stays)
    | some document =>
      have present : (session.store.get? uri).isSome := by rw [stored]; rfl
      by_cases pending : session.PushPending uri
      · rcases pending.step_or_ended wired present stays proper with later | ⟨lookup, validates⟩
        · exact .pending (same ▸ present) later
        · exact .validated kept same document stored lookup validates
      · refine .idle kept same (fun _ => pending) (wired.publications_step stays ?_)
        rintro publication rfl pushes
        exact pending pushes.pushPending

/-- One more event leaves a document in good standing. -/
theorem upheld_concat {start : Session} {rule : Rule} {events : List Event} {uri : String}
    (wired : (start.runAll events).Wired) (orderly : Orderly rule (start.runAll events))
    (current : (start.runAll events).CurrentFor uri)
    (willing : ∀ event, ¬ (start.runAll events).Validates uri event .cancelled) {event : Event}
    (proper : event.interferes = false)
    (upheld : event.renews uri = false → start.Upheld rule events uri) :
    start.Upheld rule (events ++ [event]) uri := by
  unfold Upheld
  rw [runAll_concat]
  cases orderly.attended wired proper uri with
  | closed absent _ last =>
    rw [absent]
    exact last
  | pending stored pending =>
    obtain ⟨document, stored⟩ := Option.isSome_iff_exists.mp stored
    rw [stored]
    exact .inl pending
  | validated _ same document held lookup validates =>
    rw [same, held]
    refine .inr ⟨events, event, [], lookup, rfl, validates, by simp, ?_⟩
    rw [runAll_concat]
    refine validates.ended wired orderly current held ?_
    rintro rfl
    exact willing event validates
  | idle kept same unpushed quiet =>
    have before := upheld kept
    unfold Upheld at before
    rw [same]
    cases stored : (start.runAll events).store.get? uri with
    | none =>
      rw [stored] at before
      change (publicationsFor uri ((start.runAll events).step event).outbox).getLast? = _
      rw [quiet]
      exact before
    | some document =>
      rw [stored] at before
      have pending := unpushed (by rw [stored]; rfl)
      refine .inr ((before.resolve_left pending).extend ?_ ?_)
      · exact fun lookup validates => pending validates.pushPending
      · rw [runAll_concat]
        exact quiet

theorem CurrentFor.runAll {rule : Rule} {session : Session} {uri : String}
    (current : session.CurrentFor uri) (wired : session.Wired) (orderly : Orderly rule session)
    {events : List Event} (proper : ∀ event ∈ events, event.interferes = false) :
    (session.runAll events).CurrentFor uri := by
  have both := runAll_induction wired (fun session => Orderly rule session ∧ session.CurrentFor uri)
    ⟨orderly, current⟩ events fun session event member wired held =>
      ⟨held.1.step wired (proper event member), held.2.step wired held.1 (proper event member)⟩
  exact both.2

/-- Every document that was opened or closed in a run without interference is in good standing. -/
theorem upheld_runAll (rule : Rule) (hasPlugins : Bool) (events : List Event) (uri : String)
    (proper : ∀ event ∈ events, event.interferes = false)
    (willing : ∀ number, .reply ⟨uri, number⟩ .cancelled ∉ events)
    (touched : ∃ event ∈ events, event.renews uri = true) :
    (fresh rule hasPlugins).Upheld rule events uri := by
  induction events using List.reverseRecOn with
  | nil =>
    obtain ⟨event, member, _⟩ := touched
    cases member
  | append_singleton events event step =>
    have wired := Wired.fresh rule hasPlugins
    have orderly := Orderly.fresh rule hasPlugins
    have calm : ∀ event ∈ events, event.interferes = false :=
      fun event member => proper event (List.mem_append_left _ member)
    refine upheld_concat (wired.runAll events) (orderly.runAll wired calm) ?_ ?_
      (proper event (List.mem_append_right _ (List.mem_singleton.mpr rfl))) fun kept => ?_
    · refine CurrentFor.runAll ?_ wired orderly calm
      intro task member
      cases member
    · intro ending validates
      obtain ⟨number, member⟩ := validates.cancelled_reply wired rfl
      exact willing number (List.mem_append_left _ member)
    · refine step calm (fun number member => willing number (List.mem_append_left _ member)) ?_
      obtain ⟨other, member, renewed⟩ := touched
      rcases List.mem_append.mp member with before | last
      · exact ⟨other, before, renewed⟩
      · cases List.mem_singleton.mp last
        rw [kept] at renewed
        cases renewed

/-- Once a run is quiescent, the last validation of every open document failed and was logged, or
the last publication for it holds what the rule finds in the stored text at the stored version, and
the last publication for a closed document is the empty notice. -/
theorem no_validation_lost (rule : Rule) (hasPlugins : Bool) (events : List Event) (uri : String)
    (proper : ∀ event ∈ events, event.interferes = false)
    (willing : ∀ number, .reply ⟨uri, number⟩ .cancelled ∉ events)
    (touched : ∃ event ∈ events, event.renews uri = true)
    (quiescent : ((fresh rule hasPlugins).runAll events).Quiescent) :
    match ((fresh rule hasPlugins).runAll events).store.get? uri with
    | some document => (fresh rule hasPlugins).LastValidated rule events uri document
    | none =>
        (publicationsFor uri ((fresh rule hasPlugins).runAll events).outbox).getLast? =
          some (closeNotice uri) := by
  have upheld := upheld_runAll rule hasPlugins events uri proper willing touched
  have wired := Wired.fresh rule hasPlugins
  have done := quiescent.no_task (wired.runAll events)
    ((Prompt.fresh rule hasPlugins).runAll wired events)
  unfold Upheld at upheld
  split
  · next document stored =>
    rw [stored] at upheld
    rcases upheld with ⟨task, member, _⟩ | validated
    · rw [done] at member
      cases member
    · exact validated
  · next stored =>
    rw [stored] at upheld
    exact upheld

/-- A document is changed while its first push waits for settings; the request then fails. -/
def supersededRun : List Event :=
  let uri := "file:///a.hz"
  [.handshake { support := { configuration := true } }, .opened uri "a" ⟨.int 3, rfl⟩ .null,
    .run (.start ⟨uri, 0⟩), .run (.send ⟨uri, 1⟩), .changed uri ⟨.int 4, rfl⟩ [.whole "b"],
    .run (.start ⟨uri, 2⟩), .reply ⟨uri, 1⟩ (.fault (.reported .timeout "")),
    .run (.deliver ⟨uri, 1⟩), .run (.resume ⟨uri, 0⟩), .run (.resume ⟨uri, 2⟩),
    .run (.resume ⟨uri, 0⟩), .run (.retire ⟨uri, 0⟩), .run (.retire ⟨uri, 2⟩)]

/-- The rule of the run above. -/
def oneFinding : Rule :=
  .scripted (.ok { findings := [{ range := ⟨⟨0, 0⟩, ⟨0, 1⟩⟩, message := "problem" }] })

theorem supersededRun_validated :
    (∀ event ∈ supersededRun, event.interferes = false) ∧
      (∀ number, .reply ⟨"file:///a.hz", number⟩ .cancelled ∉ supersededRun) ∧
      (∃ event ∈ supersededRun, event.renews "file:///a.hz" = true) ∧
      ((fresh oneFinding true).runAll supersededRun).Quiescent ∧
      ∃ document, ((fresh oneFinding true).runAll supersededRun).store.get? "file:///a.hz" =
          some document ∧ document.text = "b" ∧
        (fresh oneFinding true).LastValidated oneFinding supersededRun "file:///a.hz" document := by
  have proper : ∀ event ∈ supersededRun, event.interferes = false := by
    simp [supersededRun, Event.interferes]
  have willing : ∀ number, .reply ⟨"file:///a.hz", number⟩ .cancelled ∉ supersededRun := by
    simp [supersededRun]
  have touched : ∃ event ∈ supersededRun, event.renews "file:///a.hz" = true :=
    ⟨_, List.mem_cons_of_mem _ List.mem_cons_self, rfl⟩
  have quiescent : ((fresh oneFinding true).runAll supersededRun).Quiescent := ⟨rfl, rfl⟩
  exact ⟨proper, willing, touched, quiescent, _, rfl, rfl,
    no_validation_lost oneFinding true supersededRun "file:///a.hz" proper willing touched quiescent⟩

end Session

end HazeServer
