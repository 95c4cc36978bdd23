import HazeServer.Proofs.Session.Saying
import HazeServer.Proofs.Settings

/-! # Look-ups that fail

A client that cannot be asked in time, or that replies with an error, gets the default settings. But
a reply that cannot be read, or one that the client cancels, becomes the outcome of its request, and
the cache keeps it: every look-up that waits for the request and every later one has the same
outcome, until the entry is removed.
-/

namespace HazeServer

/-- How a session begins: as a server before the handshake, or with a settings cache for a client
that is known. -/
inductive Start where
  | server (rule : Rule) (hasPlugins : Bool)
  | cache (client : ClientSupport) (timeout : Nat)

namespace Start

/-- The session that begins. -/
def session : Start → Session
  | .server rule hasPlugins => .fresh rule hasPlugins
  | .cache client timeout => .forClient client timeout

theorem wired (start : Start) : start.session.Wired := by
  cases start with
  | server rule hasPlugins => exact .fresh rule hasPlugins
  | cache client timeout => exact .forClient client timeout

theorem prompt (start : Start) : start.session.Prompt := by
  cases start with
  | server rule hasPlugins => exact .fresh rule hasPlugins
  | cache client timeout => exact .forClient client timeout

theorem requests (start : Start) : start.session.requests = [] := by
  cases start <;> rfl

theorem outbox (start : Start) : start.session.outbox = [] := by
  cases start <;> rfl

end Start

namespace Session

/-- An event ends a look-up that the client asked for, and answers it. -/
def Answers (session : Session) (event : Event) (ticket : Ticket) (id : RequestId)
    (response : Response) : Prop :=
  (∃ task, session.task? ticket = some task ∧ task.purpose = .settings id) ∧
    (session.step event).task? ticket = none ∧
    session.emitted event = [.respond ticket.uri id response]

/-- What a look-up that the client asked for can be answered with: settings that may be given, the
fault that a request led to, or nothing, if it or a request was cancelled. -/
inductive Resolves (session : Session) (task : Task) : Response → Prop where
  | settings (settings : Settings) (granted : session.Grants task.uri settings) :
      Resolves session task (.settings settings)
  | fault (fault : Fault) (request : Ticket) (here : request.uri = task.uri)
      (settled : session.outcome? request = some (.fault fault)) :
      Resolves session task (.fault fault)
  | refused (request : Ticket) (here : request.uri = task.uri)
      (settled : session.outcome? request = some .cancelled) : Resolves session task .cancelled
  | dismissed (cancelled : task.cancelled = true) : Resolves session task .cancelled

/-- A look-up is still there after an event, and cancelled only if it was before or the event did
so. -/
def Lasts (later : Session) (event : Event) (id : RequestId) (task : Task) : Prop :=
  ∃ held ∈ later.tasks, held.ticket = task.ticket ∧ held.purpose = .settings id ∧
    (held.cancelled = true → task.cancelled = true ∨ event = .cancel id)

section Look

variable {session : Session} {id : RequestId} {task : Task}

/-- What is no job ends no look-up. -/
theorem Wired.lasts_step (wired : session.Wired) {event : Event} (calm : ∀ uri, ¬ event.RunsFor uri)
    (member : task ∈ session.tasks) (asks : task.purpose = .settings id) :
    (session.step event).Lasts event id task := by
  obtain ⟨middle, change, moves⟩ := wired.change_step event
  obtain ⟨held, after, ticket, purpose, cancelled, _⟩ := change.task_kept member
  refine (wired.change change).keep moves (Lasts · event id task)
    ⟨held, after, ticket, purpose.trans asks, fun flag => .inl (cancelled ▸ flag)⟩ ?_
  rintro uri first second wired move ⟨held, before, ticket, purpose, flag⟩
  cases move.fate wired before with
  | kept after => exact ⟨held, after, ticket, purpose, flag⟩
  | ran runs => exact absurd runs (calm _)
  | superseded push =>
    rw [purpose] at push
    cases push
  | cancelled other answers cancels after =>
    rw [purpose] at answers
    cases answers
    exact ⟨_, after, ticket, purpose, fun _ => .inr cancels⟩

theorem answerEffects_settings (asks : task.purpose = .settings id) (response : Response) :
    answerEffects task response = [.respond task.uri id response] := by
  simp [answerEffects, asks, Purpose.requestId?]

/-- A look-up that takes a turn goes on to wait, or is answered. -/
theorem Takes.resolves {after : Session} {job : Job} {turn : Turn}
    (takes : (session.taking job).Takes job turn after) (ready : job ∈ session.ready)
    (wired : session.Wired) (asks : turn.task.purpose = .settings id) :
    (session.step (.run job)).Lasts (.run job) id turn.task ∨
      ∃ response, session.Resolves turn.task response ∧
        session.Answers (.run job) turn.task.ticket id response := by
  have taken : (session.taking job).Wired := wired.change (.ran job ready)
  have held := takes.task?_step ready wired
  have said := takes.emitted ready wired
  have before : ∃ task, session.task? turn.task.ticket = some task ∧ task.purpose = .settings id :=
    ⟨turn.task, takes.found.1, asks⟩
  cases looked : turn.lookup with
  | waiting request =>
    rw [looked] at held
    exact .inl ⟨_, mem_of_task? held, rfl, asks, .inl⟩
  | found settings =>
    rw [looked] at held said
    refine .inr ⟨.settings settings, .settings settings (takes.grants taken looked), before, held, ?_⟩
    simp only [said, turnEffects, asks, answerEffects_settings asks]
    rfl
  | fault fault =>
    rw [looked] at held said
    obtain ⟨request, here, settled⟩ := takes.faulted taken looked
    refine .inr ⟨.fault fault, .fault fault request here settled, before, held, ?_⟩
    simp only [said, turnEffects, asks, answerEffects_settings asks]
    rfl
  | cancelled =>
    rw [looked] at held said
    obtain ⟨request, here, settled⟩ := takes.refused taken looked
    refine .inr ⟨.cancelled, .refused request here settled, before, held, ?_⟩
    simp only [said, turnEffects, answerEffects_settings asks]
    rfl

/-- An event leaves a look-up there or answers it. -/
theorem Wired.resolves_step (wired : session.Wired) (event : Event) (member : task ∈ session.tasks)
    (asks : task.purpose = .settings id) :
    (session.step event).Lasts event id task ∨
      ∃ response, session.Resolves task response ∧ session.Answers event task.ticket id response := by
  by_cases runs : ∃ job, event = .run job
  · obtain ⟨job, rfl⟩ := runs
    have before : ∃ held, session.task? task.ticket = some held ∧ held.purpose = .settings id :=
      ⟨task, wired.task_of_mem member, asks⟩
    by_cases ready : job ∈ session.ready
    · rcases wired.task_run ready member with
        kept | ⟨cancelled, ends⟩ | ⟨needs, _⟩ | ⟨turn, after, takes, rfl⟩
      · exact .inl ⟨task, kept, rfl, asks, .inl⟩
      · refine .inr ⟨.cancelled, .dismissed cancelled, before, ?_, ?_⟩
        · rw [ends, task?_endTask, if_pos rfl]
        · apply emitted_eq
          rw [ends, outbox_endTask, outbox_answer, answerEffects_settings asks]
          rfl
      · exact absurd asks (needs id)
      · exact takes.resolves ready wired asks
    · left
      change (session.run job).Lasts _ id task
      rw [run_of_not_ready session ready]
      exact ⟨task, member, rfl, asks, .inl⟩
  · exact .inl (wired.lasts_step (fun uri held => runs ⟨_, held.choose_spec.1⟩) member asks)

end Look

/-- Every look-up has been answered once a session is quiescent. -/
theorem Quiescent.answered {session : Session} {events : List Event} {task : Task} {id : RequestId}
    (quiescent : (session.runAll events).Quiescent) (wired : session.Wired) (prompt : session.Prompt)
    (member : task ∈ session.tasks) (asks : task.purpose = .settings id) :
    ∃ first event rest held response, events = first ++ event :: rest ∧
      held.uri = task.uri ∧ (held.cancelled = true → task.cancelled = true ∨ .cancel id ∈ first) ∧
      (session.runAll first).Resolves held response ∧
      (session.runAll first).Answers event task.ticket id response := by
  induction events generalizing session task with
  | nil =>
    rw [show session.tasks = [] from quiescent.no_task wired prompt] at member
    cases member
  | cons event rest step =>
    rcases wired.resolves_step event member asks with
      ⟨later, after, ticket, purpose, flag⟩ | ⟨response, resolves, answers⟩
    · obtain ⟨first, last, remaining, held, response, rfl, here, cancelled, resolves, answers⟩ :=
        step quiescent (wired.step event) (prompt.step wired event) after purpose
      refine ⟨event :: first, last, remaining, held, response, rfl, ?_, fun given => ?_, resolves,
        ticket ▸ answers⟩
      · rw [here, Task.uri, ticket]
        rfl
      · rcases cancelled given with before | during
        · refine (flag before).imp_right ?_
          rintro rfl
          exact List.mem_cons_self
        · exact .inr (List.mem_cons_of_mem _ during)
    · exact ⟨[], event, rest, task, response, rfl, rfl, .inl, resolves, answers⟩

/-- The cache holds a request for a document of a client that can be asked, and it led to a
fault. -/
structure Spoiled (session : Session) (uri : String) (fault : Fault) : Prop where
  asks : session.asksClient = true
  entry : session.EntryLedTo uri (.fault fault)

/-- Whether an event can remove what the cache holds for a document: a change of the configuration,
or what calls for eviction. -/
def Forgets (session : Session) (event : Event) (uri : String) : Prop :=
  (∃ payload, event = .configured payload) ∨ session.CallsForEviction event uri

section Spoiling

variable {session later : Session} {event : Event} {uri : String} {fault : Fault}

/-- Only the first handshake and changes of the configuration change the cache by themselves. -/
theorem Change.cache (change : session.Change event later)
    (known : session.client.isSome) (calm : ∀ payload, event ≠ .configured payload) :
    later.cache = session.cache ∧ later.client = session.client := by
  cases change.rearranges with
  | greeted client store first =>
    rw [first] at known
    cases known
  | cleared payload => exact absurd rfl (calm payload)
  | shared payload => exact absurd rfl (calm payload)
  | _ => exact ⟨rfl, rfl⟩

/-- A move leaves the cache alone, makes a request or evicts. -/
theorem Move.cache (move : Move event uri session later) :
    later.cache = session.cache ∨
      (later = (session.askFor uri).2 ∧ ∃ cache, session.cache = some cache ∧
        cache.entries.get? uri = none) ∨
      (later = session.evict uri ∧ (session.CallsForEviction event uri ∨
        (event.RunsFor uri ∧ session.EntryLedTo uri .failed))) := by
  cases move with
  | ask cache _ present absent => exact .inr (.inl ⟨rfl, cache, present, absent⟩)
  | evict cause => exact .inr (.inr ⟨rfl, cause⟩)
  | push => exact .inl (by rw [publish_frame])
  | notice => exact .inl (by rw [publish_frame])
  | schedule =>
    left
    change (session.cancelValidation uri).cache = _
    rw [cancelValidation_frame]
  | takeBack => exact .inl (by rw [cancelValidation_frame])
  | cancel => exact .inl (by rw [cancelTask_frame])
  | finish => exact .inl (by rw [endTask_frame])
  | settle => exact .inl (by rw [settleRequest_frame]; rfl)
  | retire => exact .inl (by rw [runRetire_frame])
  | tell => exact .inl rfl
  | answer => exact .inl rfl
  | count => exact .inl rfl
  | refresh => exact .inl rfl
  | begin => exact .inl rfl
  | wait => exact .inl rfl
  | sent => exact .inl rfl
  | receive => exact .inl rfl

/-- A move keeps what the cache holds for a document, unless it evicts it. -/
theorem Move.entry {about : String} (move : Move event about session later) {cache : Cache}
    {request : Ticket} (present : session.cache = some cache)
    (entry : cache.entries.get? uri = some request) :
    (∃ kept, later.cache = some kept ∧ kept.entries.get? uri = some request) ∨
      (about = uri ∧ (session.CallsForEviction event uri ∨
        (event.RunsFor uri ∧ session.EntryLedTo uri .failed))) := by
  rcases move.cache with same | ⟨rfl, other, held, absent⟩ | ⟨rfl, cause⟩
  · exact .inl ⟨cache, same.trans present, entry⟩
  · left
    cases held.symm.trans present
    have elsewhere : uri ≠ about := by
      rintro rfl
      rw [absent] at entry
      cases entry
    refine ⟨_, Option.map_eq_some_iff.mpr ⟨cache, present, rfl⟩, ?_⟩
    rw [Table.get?_set, if_neg elsewhere]
    exact entry
  · by_cases here : uri = about
    · subst here
      exact .inr ⟨rfl, cause⟩
    · left
      refine ⟨_, Option.map_eq_some_iff.mpr ⟨cache, present, rfl⟩, ?_⟩
      rw [Table.get?_erase, if_neg here]
      exact entry

private theorem Spoiled.move {about : String} (spoiled : session.Spoiled uri fault) (wired : session.Wired)
    (move : Move event about session later) (stays : ¬ session.CallsForEviction event uri) :
    later.Spoiled uri fault := by
  obtain ⟨asks, cache, request, present, entry, settled⟩ := spoiled
  refine ⟨?_, ?_⟩
  · unfold asksClient
    rw [move.sameGround.client]
    exact asks
  · rcases move.entry present entry with ⟨kept, cached, held⟩ | ⟨_, evicts | ⟨_, failed⟩⟩
    · exact ⟨kept, request, cached, held, (move.requested wired).outcome settled⟩
    · exact absurd evicts stays
    · obtain ⟨other, found, cached, held, ended⟩ := failed
      cases cached.symm.trans present
      cases held.symm.trans entry
      cases ended.symm.trans settled

theorem Change.callsForEviction (change : session.Change event later)
    (calls : later.CallsForEviction event uri) : session.CallsForEviction event uri := by
  rcases calls with evicts | ⟨notice, notified, listed⟩
  · exact .inl evicts
  · refine .inr ⟨notice, notified, ?_⟩
    cases change.rearranges with
    | greeted => cases notified
    | hooked => cases notified
    | _ => exact listed

/-- What spoils the settings of a document stays until it is forgotten. -/
theorem Spoiled.step (spoiled : session.Spoiled uri fault) (wired : session.Wired)
    (stays : ¬ session.Forgets event uri) : (session.step event).Spoiled uri fault := by
  obtain ⟨middle, change, moves⟩ := wired.change_step event
  have quiet : ¬ middle.CallsForEviction event uri :=
    fun calls => stays (.inr (change.callsForEviction calls))
  have before : middle.Spoiled uri fault := by
    obtain ⟨asks, cache, request, present, entry, settled⟩ := spoiled
    have known : session.client.isSome := by
      obtain ⟨client, known, _⟩ := Option.any_eq_true _ _ |>.mp asks
      rw [known]
      rfl
    obtain ⟨cached, client⟩ := change.cache known fun payload same => stays (.inl ⟨payload, same⟩)
    refine ⟨?_, cache, request, cached.trans present, entry, ?_⟩
    · unfold asksClient
      rw [client]
      exact asks
    · rw [outcome?_eq_some, requestState?_of_requests change.requests]
      exact outcome?_eq_some.mp settled
  have kept := (wired.change change).keep moves
    (fun later => middle.SameGround later ∧ later.Spoiled uri fault) ⟨.refl middle, before⟩
    fun wired move held => by
      refine ⟨held.1.trans move.sameGround, held.2.move wired move ?_⟩
      unfold CallsForEviction
      rw [held.1.hooks]
      exact quiet
  exact kept.2

/-- A look-up for a document whose settings are spoiled fails, and changes nothing. -/
theorem Spoiled.lookUp (spoiled : session.Spoiled uri fault) :
    session.lookUp uri = (.fault fault, session) := by
  obtain ⟨asks, cache, request, present, entry, settled⟩ := spoiled
  unfold Session.lookUp
  simp only [present, asks, Bool.not_true, Bool.false_eq_true, ↓reduceIte, entry, settled]
  rfl

/-- Every look-up that begins while the settings of its document are spoiled is answered with the
fault. -/
theorem Spoiled.answers {task : Task} {id : RequestId} (spoiled : session.Spoiled task.uri fault)
    (wired : session.Wired) (found : session.task? task.ticket = some task)
    (asks : task.purpose = .settings id) (new : task.stage = .created)
    (live : task.cancelled = false) (ready : .start task.ticket ∈ session.ready) :
    session.Answers (.run (.start task.ticket)) task.ticket id (.fault fault) := by
  have looked : ((session.taking (.start task.ticket)).lookUp task.uri).1 = .fault fault := by
    have taken : (session.taking (.start task.ticket)).Spoiled task.uri fault :=
      ⟨spoiled.asks, spoiled.entry⟩
    rw [taken.lookUp]
  have takes : (session.taking (.start task.ticket)).Takes _ _ _ :=
    .first task .null found new live (by simp only [Sees, asks])
  have gone := takes.task?_step ready wired
  have said := takes.emitted ready wired
  simp only [looked] at gone said
  refine ⟨⟨task, found, asks⟩, gone, ?_⟩
  simp only [said, turnEffects, asks, answerEffects_settings asks]
  rfl

/-- A reply that cannot be read spoils the settings of the document whose request it settles. -/
theorem spoiled_deliver {cache : Cache} {ticket : Ticket} {value : Json}
    (asks : session.asksClient = true) (present : session.cache = some cache)
    (entry : cache.entries.get? ticket.uri = some ticket)
    (answered : session.requestState? ticket = some (.answered (.result value)))
    (unusable : Unusable value fault) (ready : .deliver ticket ∈ session.ready) :
    (session.step (.run (.deliver ticket))).Spoiled ticket.uri fault := by
  have settles : session.step (.run (.deliver ticket)) =
      (session.taking (.deliver ticket)).settleRequest ticket (.result value) := by
    change session.run (.deliver ticket) = _
    rw [session.perform_taking ready]
    change (session.taking (.deliver ticket)).deliverReply ticket = _
    unfold deliverReply
    rw [show (session.taking (.deliver ticket)).requestState? ticket = _ from answered]
  have outcome : outcomeOf (.result value) = .fault fault := by
    simp only [outcomeOf, Settings.ofReply_eq_error.mpr unusable]
  rw [settles]
  refine ⟨?_, cache, ticket, ?_, entry, ?_⟩
  · unfold asksClient
    rw [settleRequest_frame]
    exact asks
  · rw [settleRequest_frame]
    exact present
  · rw [outcome?_eq_some, requestState?_settleRequest, if_pos rfl, outcome]
    rw [show (session.taking (.deliver ticket)).requestState? ticket = _ from answered]
    rfl

/-- A change of the configuration fails if the client cannot be asked and the settings it gives
cannot be read, and if there are no plugins to be told of it. -/
theorem configure_eq_fault (session : Session) (payload : Json) (fault : Fault) :
    (session.configure payload).1 = .fault fault ↔
      session.cache.isSome ∧
        ((session.asksClient = false ∧
            Unlimited ((payload.member? Settings.sectionName).getD .null) fault) ∨
          (session.hasPlugins = false ∧ fault = .componentMissing "refresh_diagnostics" ∧
            (session.asksClient = true ∨
              ∀ other, ¬ Unlimited ((payload.member? Settings.sectionName).getD .null) other))) := by
  unfold configure
  cases present : session.cache with
  | none => simp
  | some cache =>
    simp only [Option.isNone_some, Bool.false_eq_true, ↓reduceIte, Option.isSome_some, true_and]
    unfold dropSettings
    cases session.asksClient with
    | true =>
      simp only [↓reduceIte, Bool.true_eq_false, false_and, true_or, and_true, false_or]
      change (if session.hasPlugins = true then _ else _ : Answer × Session).1 = _ ↔ _
      cases session.hasPlugins <;> simp [eq_comm]
    | false =>
      simp only [Bool.false_eq_true, ↓reduceIte, true_and, false_or]
      unfold updateGlobal
      cases valid : Settings.ofPayload payload with
      | error given =>
        have unlimited := Settings.ofJson_eq_error.mp valid
        change Answer.fault given = .fault fault ↔ _
        constructor
        · intro same
          cases same
          exact .inl unlimited
        · rintro (other | ⟨_, _, readable⟩)
          · have failed := Settings.ofJson_eq_error.mpr other
            cases failed.symm.trans valid
            rfl
          · exact absurd unlimited (readable given)
      | ok settings =>
        have readable (other : Fault) :
            ¬ Unlimited ((payload.member? Settings.sectionName).getD .null) other := by
          intro unlimited
          have failed := Settings.ofJson_eq_error.mpr unlimited
          cases failed.symm.trans valid
        change (if session.hasPlugins = true then _ else _ : Answer × Session).1 = _ ↔ _
        cases session.hasPlugins <;> simp [readable, eq_comm]

end Spoiling

/-- What accounts for the answer to a look-up after some events: settings that may be given, or what
the client has said. -/
def AccountsFor (session : Session) (events : List Event) (uri : String) (id : RequestId) :
    Response → Prop
  | .settings settings => session.Grants uri settings
  | .fault fault =>
      ∃ number value, .reply ⟨uri, number⟩ (.result value) ∈ events ∧ Unusable value fault
  | .cancelled => .cancel id ∈ events ∨ ∃ number, .reply ⟨uri, number⟩ .cancelled ∈ events
  | _ => False

private theorem Resolves.accountsFor {start : Session} (wired : start.Wired) (blank : start.requests = [])
    {events : List Event} {task : Task} {id : RequestId} {response : Response}
    (resolves : (start.runAll events).Resolves task response)
    (cancelled : task.cancelled = true → .cancel id ∈ events) :
    (start.runAll events).AccountsFor events task.uri id response := by
  cases resolves with
  | settings settings granted => exact granted
  | fault fault request here settled =>
    rcases explained_runAll wired blank events (outcome?_eq_some.mp settled) with
      failed | ⟨reply, member, outcome⟩
    · cases failed
    · obtain ⟨value, rfl, failed⟩ := outcomeOf_eq_fault outcome.symm
      rw [← here]
      exact ⟨request.number, value, member, Settings.ofReply_eq_error.mp failed⟩
  | refused request here settled =>
    rcases explained_runAll wired blank events (outcome?_eq_some.mp settled) with
      failed | ⟨reply, member, outcome⟩
    · cases failed
    · cases outcomeOf_eq_cancelled outcome.symm
      rw [← here]
      exact .inr ⟨request.number, member⟩
  | dismissed flag => exact .inl (cancelled flag)

/-- Asking for settings, where there is a cache, begins a look-up. -/
theorem mem_tasks_ask {session : Session} (cached : session.cache.isSome) (uri : String)
    (id : RequestId) :
    ⟨session.nextTicket uri, .settings id, .created, false⟩ ∈
      (session.step (.ask uri (.settings id))).tasks := by
  obtain ⟨cache, present⟩ := Option.isSome_iff_exists.mp cached
  have begins : session.step (.ask uri (.settings id)) =
      (session.startTask uri (.settings id)).2 := by
    change (session.ask uri (.settings id)).2 = _
    unfold ask
    simp only [present]
  rw [begins]
  exact List.mem_append_right _ (List.mem_singleton.mpr rfl)

private theorem Spoiled.runAll {session : Session} {uri : String} {fault : Fault}
    (spoiled : session.Spoiled uri fault) (wired : session.Wired) {events : List Event}
    (stays : ∀ first event rest, events = first ++ event :: rest →
      ¬ (session.runAll first).Forgets event uri) : (session.runAll events).Spoiled uri fault := by
  induction events generalizing session with
  | nil => exact spoiled
  | cons event rest step =>
    refine step (spoiled.step wired (stays [] event rest rfl)) (wired.step event) ?_
    rintro first last remaining rfl
    exact stays (event :: first) last remaining rfl

/-- Every look-up that the client asks for is answered: with settings, unless the client gave a reply
for the document that cannot be read, or cancelled something. Such a reply to the request in the cache
spoils the settings of its document, and until they are forgotten every look-up that begins is
answered with the same fault. A change of the configuration fails exactly if the client cannot be
asked and gives a limit that is no whole number, or there are no plugins. -/
theorem settings_fail_as_replied (start : Start) (events : List Event) :
    (∀ uri id rest, (start.session.runAll events).cache.isSome →
        (start.session.runAll (events ++ .ask uri (.settings id) :: rest)).Quiescent →
        ∃ first event later response, rest = first ++ event :: later ∧
          (start.session.runAll (events ++ .ask uri (.settings id) :: first)).Answers event
            ((start.session.runAll events).nextTicket uri) id response ∧
          (start.session.runAll (events ++ .ask uri (.settings id) :: first)).AccountsFor
            (events ++ .ask uri (.settings id) :: first) uri id response) ∧
      (∀ cache ticket value fault, (start.session.runAll events).asksClient = true →
        (start.session.runAll events).cache = some cache →
        cache.entries.get? ticket.uri = some ticket →
        (start.session.runAll events).requestState? ticket = some (.answered (.result value)) →
        Unusable value fault →
        (start.session.runAll (events ++ [.run (.deliver ticket)])).Spoiled ticket.uri fault) ∧
      (∀ uri fault rest, (start.session.runAll events).Spoiled uri fault →
        (∀ first event later, rest = first ++ event :: later →
          ¬ (start.session.runAll (events ++ first)).Forgets event uri) →
        (start.session.runAll (events ++ rest)).Spoiled uri fault ∧
          ∀ task id, (start.session.runAll (events ++ rest)).task? task.ticket = some task →
            task.uri = uri → task.purpose = .settings id → task.stage = .created →
            task.cancelled = false →
            (start.session.runAll (events ++ rest)).Answers (.run (.start task.ticket)) task.ticket id
              (.fault fault)) ∧
      ∀ payload fault,
        ((start.session.runAll events).handle (.configured payload)).1 = .fault fault ↔
          (start.session.runAll events).cache.isSome ∧
            (((start.session.runAll events).asksClient = false ∧
                Unlimited ((payload.member? Settings.sectionName).getD .null) fault) ∨
              ((start.session.runAll events).hasPlugins = false ∧
                fault = .componentMissing "refresh_diagnostics" ∧
                ((start.session.runAll events).asksClient = true ∨ ∀ other,
                  ¬ Unlimited ((payload.member? Settings.sectionName).getD .null) other))) := by
  have wired := start.wired.runAll events
  have prompt := start.prompt.runAll start.wired events
  refine ⟨?_, ?_, ?_, ?_⟩
  · intro uri id rest cached quiescent
    have member := mem_tasks_ask cached uri id
    rw [runAll_append] at quiescent
    change (((start.session.runAll events).step (.ask uri (.settings id))).runAll rest).Quiescent
      at quiescent
    obtain ⟨first, event, later, held, response, rfl, here, cancelled, resolves, answers⟩ :=
      Quiescent.answered quiescent (wired.step _) (prompt.step wired _) member rfl
    refine ⟨first, event, later, response, rfl, ?_, ?_⟩
    · rw [runAll_append]
      exact answers
    · have reached : (start.session.runAll (events ++ .ask uri (.settings id) :: first)).Resolves
          held response := by
        rw [runAll_append]
        exact resolves
      have about : held.uri = uri := here
      rw [← about] at reached ⊢
      refine reached.accountsFor start.wired start.requests fun flag => ?_
      rcases cancelled flag with before | during
      · cases before
      · exact List.mem_append_right _ (List.mem_cons_of_mem _ during)
  · intro cache ticket value fault asks present entry answered unusable
    rw [runAll_concat]
    exact spoiled_deliver asks present entry answered unusable (prompt _ ⟨_, answered⟩)
  · intro uri fault rest spoiled stays
    rw [runAll_append]
    have remains := spoiled.runAll wired fun first event later split => by
      rw [← runAll_append]
      exact stays first event later split
    refine ⟨remains, ?_⟩
    rintro task id found rfl asks new live
    have ready := prompt.runAll wired rest (.start task.ticket) ⟨task, found, new⟩
    exact remains.answers (wired.runAll rest) found asks new live ready
  · exact configure_eq_fault _

/-- The client replies with a number to the request that a look-up makes. -/
def numberReplied : List Event :=
  let uri := "file:///a.hz"
  [.ask uri (.settings (.number 1)), .run (.start ⟨uri, 0⟩), .run (.send ⟨uri, 1⟩),
    .reply ⟨uri, 1⟩ (.result (.int 5))]

/-- The look-up then fails, and so does the next one. -/
theorem numberReplied_spoils :
    ((Start.cache { configuration := true } 5).session.runAll
        (numberReplied ++ [.run (.deliver ⟨"file:///a.hz", 1⟩)])).Spoiled
          "file:///a.hz" (.noItems "int") ∧
      ((Start.cache { configuration := true } 5).session.runAll
        (numberReplied ++ [.run (.deliver ⟨"file:///a.hz", 1⟩)] ++
          [.ask "file:///a.hz" (.settings (.number 2))])).Answers
            (.run (.start ⟨"file:///a.hz", 2⟩)) ⟨"file:///a.hz", 2⟩ (.number 2)
            (.fault (.noItems "int")) := by
  have spoiled : ((Start.cache { configuration := true } 5).session.runAll
      (numberReplied ++ [.run (.deliver ⟨"file:///a.hz", 1⟩)])).Spoiled
        "file:///a.hz" (.noItems "int") :=
    (settings_fail_as_replied (.cache { configuration := true } 5) numberReplied).2.1 _
      ⟨"file:///a.hz", 1⟩ (.int 5) (.noItems "int") rfl rfl rfl rfl (.int 5 (by decide))
  refine ⟨spoiled, ?_⟩
  refine ((settings_fail_as_replied (.cache { configuration := true } 5) _).2.2.1 _ _
    [.ask "file:///a.hz" (.settings (.number 2))] spoiled ?_).2
      ⟨⟨"file:///a.hz", 2⟩, .settings (.number 2), .created, false⟩ (.number 2) rfl rfl rfl rfl rfl
  intro first event later split
  obtain ⟨rfl, ends⟩ : first = [] ∧ event = .ask "file:///a.hz" (.settings (.number 2)) := by
    cases first with
    | nil => exact ⟨rfl, (List.cons.inj split).1.symm⟩
    | cons other rest => simp at split
  rw [ends]
  rintro (⟨payload, same⟩ | same | ⟨notice, notified, _⟩)
  · cases same
  · cases same
  · cases notified

end Session

end HazeServer
