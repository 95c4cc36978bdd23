import HazeServer.Proofs.Revalidation
import HazeServer.Proofs.Session.Reconfiguration

/-! # Settings after a change of the configuration

Once a change of the configuration was handled, no push uses settings from before it: requests made
earlier have lost their entries, and the pushes that wait for them are cancelled. Every open document
is validated again. It is heard of since the change, unless the client cancels the request for its
settings: the push for it then ends without a word.
-/

namespace HazeServer

/-- Whether an effect asks the client to refresh its diagnostics. -/
def Effect.isRefresh : Effect → Bool
  | .askRefresh => true
  | _ => false

namespace Session

/-- All that pushes can learn from goes back to requests made since an earlier session. -/
structure Renewed (before session : Session) : Prop where
  grown : ∀ uri, before.issued uri ≤ session.issued uri
  entries : ∀ uri request, session.entryOf uri = some request → before.issued uri ≤ request.number
  pushes : ∀ task ∈ session.tasks, task.purpose = .push → task.cancelled = false →
    ∀ request subject version, task.stage = .waiting request subject version →
      before.issued task.uri ≤ request.number

/-- The settings of a client that cannot be asked were given in one of some events. -/
def Governed (events : List Event) (session : Session) : Prop :=
  session.asksClient = false → ∀ terms, session.terms? = some terms →
    ∃ payload, .configured payload ∈ events ∧ Settings.ofPayload payload = .ok terms.1

/-- Settings that do not go back to a time before an earlier session: they were asked for since, or are
those of a client that cannot be asked and gave them since. -/
inductive Since (before : Session) (events : List Event) (session : Session) (uri : String)
    (settings : Settings) : Prop where
  | asked (request : Ticket) (here : request.uri = uri) (new : before.request? request = none)
      (led : session.outcome? request = some (.settings settings) ∨
        (session.outcome? request = some .failed ∧ settings = .default))
  | given (payload : Json) (member : .configured payload ∈ events) (silent : session.asksClient = false)
      (valid : Settings.ofPayload payload = .ok settings)

/-- A publication holds what the rule finds in the stored document under settings that do not go back
to a time before an earlier session. -/
def Reports (before : Session) (events : List Event) (session : Session)
    (publication : Publication) : Prop :=
  ∃ settings document, session.store.get? publication.uri = some document ∧
    document.version.equals publication.version = true ∧
    (session.rule.validate (showsRelated session.client) settings.problemLimit document).result =
      .ok publication.diagnostics ∧
    Since before events session publication.uri settings

/-- Something was heard of a document: a publication for it, a failure of its validation, or that the
client cancelled a request for its settings made since an earlier session. -/
inductive Heard (before session : Session) (uri : String) (effects : List Effect) : Prop where
  | published (publication : Publication) (member : publication ∈ publicationsFor uri effects)
  | failed (fault : Fault) (member : validationFailure uri fault ∈ effects)
  | refused (request : Ticket) (here : request.uri = uri) (new : before.request? request = none)
      (cancelled : session.outcome? request = some .cancelled)

/-- An event is a change of the configuration that is not refused. -/
def Reconfigures (session : Session) (event : Event) : Prop :=
  ∃ payload, event = .configured payload ∧ session.cache.isSome ∧ (session.handle event).1 = .nothing

section Renewing

variable {before session later : Session} {event : Event} {payload : Json}

private theorem Renewed.move {uri : String} (renewed : Renewed before session) (wired : session.Wired)
    (move : Move event uri session later) : Renewed before later := by
  refine ⟨fun other => Nat.le_trans (renewed.grown other) (move.issued other), ?_, ?_⟩
  · intro other request entry
    rcases move.entry_stems entry with held | rfl
    · exact renewed.entries other request held
    · exact renewed.grown other
  · intro task member push live request subject version waits
    cases move.origin wired member with
    | kept _ held => exact renewed.pushes task held push live request subject version waits
    | cancelled => cases live
    | waits held awaited seen _ here _ _ _ _ asks entry =>
      cases waits
      have listed : session.entryOf held.uri = some request := by
        unfold entryOf
        rw [if_pos asks, here, entry]
      exact renewed.entries held.uri request listed
    | asked => cases waits
    | scheduled => cases waits

private theorem Renewed.change (renewed : Renewed before session) (change : session.Change event later) :
    Renewed before later := by
  refine ⟨fun uri => ?_, ?_, ?_⟩
  · unfold issued
    rw [change.tickets]
    exact renewed.grown uri
  · intro uri request entry
    rcases change.entries uri with same | ⟨gone, _⟩
    · exact renewed.entries uri request (same ▸ entry)
    · rw [gone] at entry
      cases entry
  · intro task member push live request subject version waits
    rcases change.task member with ⟨held, _⟩ | ⟨document, held, old, _, _, rfl⟩
    · exact renewed.pushes task held push live request subject version waits
    · obtain ⟨about, waited⟩ := withdraw_eq_waiting waits
      exact renewed.pushes held old push live request about version waited

theorem Renewed.step (renewed : Renewed before session) (wired : session.Wired) (event : Event) :
    Renewed before (session.step event) := by
  obtain ⟨middle, change, moves⟩ := wired.change_step event
  exact (wired.change change).keep moves (Renewed before) (renewed.change change)
    fun wired move held => held.move wired move

/-- A request whose number was not issued yet was not made yet. -/
theorem Wired.request?_of_issued (wired : before.Wired) {request : Ticket}
    (bound : before.issued request.uri ≤ request.number) : before.request? request = none := by
  cases found : before.request? request with
  | none => rfl
  | some made =>
    have issued := wired.requests_issued made (List.mem_of_find?_eq_some found)
    have named : made.ticket = request := by simpa only [beq_iff_eq] using List.find?_some found
    rw [named] at issued
    omega

/-- What a push learns from is a request made since. -/
theorem Renewed.source (renewed : Renewed before session) (early : before.Wired) (wired : session.Wired)
    {task : Task} (push : task.purpose = .push) (live : task.cancelled = false) {request : Ticket}
    (source : session.entryOf task.uri = some request ∨ session.Caller request task) :
    request.uri = task.uri ∧ before.request? request = none := by
  have drawn : request.uri = task.uri ∧ before.issued task.uri ≤ request.number := by
    rcases source with entry | caller
    · exact ⟨(wired.entry_asked entry).1, renewed.entries task.uri request entry⟩
    · obtain ⟨subject, version, waits⟩ := waitsFor_iff.mp caller.waits
      exact ⟨(wired.waits_asked task caller.member request subject version waits).1,
        renewed.pushes task caller.member push live request subject version waits⟩
  exact ⟨drawn.1, early.request?_of_issued (drawn.1 ▸ drawn.2)⟩

/-- A change that is handled renews everything that pushes can learn from. -/
theorem Handled.renewed (handled : session.Handled payload) (wired : session.Wired)
    (stands : ∀ uri, (session.step (.configured payload)).OpenFor uri) :
    Renewed session (session.step (.configured payload)) := by
  refine ⟨wired.issued_step _, ?_, ?_⟩
  · intro uri request entry
    rw [handled.entry] at entry
    cases entry
  · intro task member push live request subject version waits
    -- a push that waits is about an open document, and each of those has got a new one
    have stored : (session.store.get? task.uri).isSome := by
      have later := stands task.uri task member rfl push live (by rw [waits]; simp)
      rw [handled.store] at later
      exact later
    have created := (handled.pushes wired stored).1 task member rfl push live
    rw [created] at waits
    cases waits

end Renewing

section Governing

variable {session : Session} {events : List Event} {payload : Json}

theorem terms?_of_global {settings : Settings} {terms : Settings × Nat}
    (present : terms? { session with
      cache := session.cache.map fun cache => { cache with global := settings } } = some terms) :
    terms.1 = settings := by
  unfold terms? at present
  rw [Option.map_map] at present
  obtain ⟨cache, _, rfl⟩ := Option.map_eq_some_iff.mp present
  rfl

private theorem Governed.step (governed : Governed events session) (wired : session.Wired)
    (known : session.client.isSome) (event : Event) :
    Governed (events ++ [event]) (session.step event) := by
  obtain ⟨middle, change, moves⟩ := wired.change_step event
  have client : middle.client = session.client := change.client known
  intro silent terms present
  unfold asksClient at silent
  rw [moves.sameGround.client, client] at silent
  rw [moves.terms] at present
  have held (same : middle.terms? = session.terms?) :
      ∃ payload, .configured payload ∈ events ++ [event] ∧ Settings.ofPayload payload = .ok terms.1 := by
    obtain ⟨payload, member, valid⟩ := governed silent terms (same ▸ present)
    exact ⟨payload, List.mem_append_left _ member, valid⟩
  by_cases configured : ∃ payload, event = .configured payload
  · obtain ⟨payload, rfl⟩ := configured
    cases change with
    | still => exact held rfl
    | edited _ _ _ _ _ named => rcases named with ⟨_, same, _⟩ | same <;> cases same
    | cleared _ asks => cases asks.symm.trans silent
    | shared _ settings _ valid =>
      refine ⟨payload, List.mem_append_right _ (List.mem_singleton.mpr rfl), ?_⟩
      rw [terms?_of_global present]
      exact valid
  · refine held (terms?_of_cache (change.cache known fun payload same => ?_).1)
    exact configured ⟨payload, same⟩

private theorem Governed.runAll (governed : Governed events session) (wired : session.Wired)
    (known : session.client.isSome) (rest : List Event) :
    Governed (events ++ rest) (session.runAll rest) := by
  induction rest generalizing session events with
  | nil =>
    rw [List.append_nil]
    exact governed
  | cons event rest step =>
    have later : (session.step event).client.isSome := by
      rw [wired.client_step event known]
      exact known
    have held := step (governed.step wired known event) (wired.step event) later
    rw [List.append_assoc] at held
    exact held

/-- The settings of a client that cannot be asked are those of a change that was handled. -/
theorem Handled.governed (handled : session.Handled payload) :
    Governed [.configured payload] (session.step (.configured payload)) := by
  obtain ⟨dropped, drops, cache, client⟩ := handled.cache
  intro silent terms present
  unfold asksClient at silent
  rw [client] at silent
  rw [terms?_of_cache cache] at present
  rcases dropSettings_cases drops with ⟨asks, _⟩ | ⟨_, settings, valid, rfl⟩
  · cases asks.symm.trans silent
  · refine ⟨payload, List.mem_singleton.mpr rfl, ?_⟩
    rw [terms?_of_global present]
    exact valid

private theorem learn_eq_found {request : Ticket} {outcome : Outcome} {settings : Settings}
    (learned : (session.learn request outcome).1 = .found settings) :
    outcome = .settings settings ∨ (outcome = .failed ∧ settings = .default) := by
  cases outcome <;> cases learned
  · exact .inl rfl
  · exact .inr ⟨rfl, rfl⟩

/-- What a push publishes is capped by settings from after the change. -/
theorem Renewed.reports {before : Session} {event : Event} {publication : Publication}
    (renewed : Renewed before session) (early : before.Wired) (wired : session.Wired)
    (cached : session.cache.isSome) (governed : Governed events session)
    (pushes : session.Pushes event publication) : Reports before events session publication := by
  obtain ⟨job, turn, after, settings, document, _, ready, takes, push, here, looked, _, _, held, same,
    valid⟩ := pushes
  refine ⟨settings, document, held, same, valid, ?_⟩
  have drawn := takes.drawn (by simp [looked])
  have live := takes.found.2.1
  rw [looked] at drawn
  generalize given : Lookup.found settings = lookup at drawn
  cases drawn with
  | early absent =>
    rw [absent] at cached
    cases cached
  | shared cache present silent =>
    cases given
    obtain ⟨payload, member, valid⟩ := governed silent (cache.global, cache.timeout) (by
      rw [terms?, present]
      rfl)
    exact .given payload member silent valid
  | learned request outcome source settled =>
    obtain ⟨about, new⟩ := renewed.source early wired push live source
    refine .asked request (about.trans here) new ?_
    rcases learn_eq_found given.symm with rfl | ⟨rfl, rfl⟩
    · exact .inl settled
    · exact .inr ⟨settled, rfl⟩

end Governing

section Hearing

variable {before session : Session} {uri : String} {effects : List Effect} {event : Event}

private theorem Heard.step (heard : Heard before session uri effects) (wired : session.Wired)
    (event : Event) :
    Heard before (session.step event) uri (effects ++ session.emitted event) := by
  cases heard with
  | published publication member =>
    refine .published publication ?_
    rw [publicationsFor_append]
    exact List.mem_append_left _ member
  | failed fault member => exact .failed fault (List.mem_append_left _ member)
  | refused request here new cancelled =>
    exact .refused request here new (wired.outcome_step event cancelled)

/-- A validation that ends is heard of, or the client cancelled the request for its settings. -/
theorem Validates.heard {rule : Rule} {lookup : Lookup} (validates : session.Validates uri event lookup)
    (renewed : Renewed before session) (early : before.Wired) (wired : session.Wired)
    (orderly : Orderly rule session) (current : session.CurrentFor uri) {document : Document}
    (held : session.store.get? uri = some document) (effects : List Effect) :
    Heard before (session.step event) uri (effects ++ session.emitted event) := by
  have said := validates.emitted wired orderly current held
  rw [said]
  obtain ⟨job, turn, after, rfl, ready, takes, push, rfl, rfl, settled⟩ := validates
  cases looked : turn.lookup with
  | waiting request => exact absurd looked (settled request)
  | fault fault => exact .failed fault (List.mem_append_right _ (by simp [verdict]))
  | found settings =>
    simp only [verdict]
    split
    · next fault _ => exact .failed fault (List.mem_append_right _ (by simp))
    · next diagnostics _ =>
      refine .published ⟨turn.task.uri, document.version, diagnostics⟩ ?_
      rw [mem_publicationsFor]
      exact ⟨List.mem_append_right _ (by simp), rfl⟩
  | cancelled =>
    have drawn := takes.drawn settled
    have live := takes.found.2.1
    rw [looked] at drawn
    generalize given : Lookup.cancelled = lookup at drawn
    cases drawn with
    | early => cases given
    | shared => cases given
    | learned request outcome source known =>
      obtain ⟨about, new⟩ := renewed.source early wired push live source
      cases learn_eq_cancelled given.symm
      exact .refused request about new (wired.outcome_step _ known)

/-- A document that is open since an earlier session has a push pending, or was heard of. -/
def Revisits (before session : Session) (uri : String) : Prop :=
  ∃ effects, session.outbox = before.outbox ++ effects ∧
    (((session.store.get? uri).isSome ∧ session.PushPending uri) ∨ Heard before session uri effects)

private theorem Revisits.step {rule : Rule} (revisits : Revisits before session uri)
    (renewed : Renewed before session) (early : before.Wired) (wired : session.Wired)
    (orderly : Orderly rule session) (current : session.CurrentFor uri)
    (proper : event.interferes = false) : Revisits before (session.step event) uri := by
  obtain ⟨effects, grown, standing⟩ := revisits
  refine ⟨effects ++ session.emitted event, ?_, ?_⟩
  · rw [wired.outbox_step, grown, List.append_assoc]
  · rcases standing with ⟨stored, pending⟩ | heard
    · cases orderly.attended wired proper uri with
      | closed _ noticed =>
        refine .inr (.published (closeNotice uri) (mem_publicationsFor.mpr ⟨?_, rfl⟩))
        exact List.mem_append_right _ noticed
      | pending stored pending => exact .inl ⟨stored, pending⟩
      | validated _ _ document held _ validates =>
        exact .inr (validates.heard renewed early wired orderly current held effects)
      | idle _ _ unpushed => exact absurd pending (unpushed stored)
    · exact .inr (heard.step wired event)

end Hearing

section Refreshing

variable {session : Session} {payload : Json}

private theorem outbox_refreshDiagnostics (session : Session) :
    ∃ effects, session.refreshDiagnostics.outbox = session.outbox ++ effects ∧
      effects.countP Effect.isRefresh = if session.refreshesClient then 1 else 0 := by
  rw [refreshDiagnostics_eq]
  split
  · split
    · next fault _ =>
      exact ⟨[.askRefresh, refreshFailure validatorName fault], by simp [unrefreshed, emit], rfl⟩
    · refine ⟨[.askRefresh], ?_, rfl⟩
      rw [schedules_frame]
      rfl
  · refine ⟨[], ?_, rfl⟩
    rw [schedules_frame, List.append_nil]

/-- A change that is refused says nothing. -/
theorem outbox_configure (refused : ¬ session.Reconfigures (.configured payload)) :
    (session.configure payload).2.outbox = session.outbox := by
  have answered (cached : session.cache.isSome) : (session.configure payload).1 ≠ .nothing :=
    fun answer => refused ⟨payload, rfl, cached, answer⟩
  have configures := session.configures payload
  generalize session.configure payload = result at configures answered ⊢
  cases configures with
  | early => rfl
  | refused => rfl
  | taken _ _ cached => exact absurd rfl (answered cached)
  | lacking dropped drops => rw [dropSettings_frame drops]

/-- The client is asked to refresh once for every change that is not refused, if it can be, and at no
other time. -/
theorem Wired.refreshes_step (wired : session.Wired) (event : Event) :
    (session.emitted event).countP Effect.isRefresh ≤ 1 ∧
      ((session.emitted event).countP Effect.isRefresh = 1 ↔
        session.refreshesClient = true ∧ session.Reconfigures event) := by
  by_cases reconfigures : session.Reconfigures event
  · obtain ⟨payload, rfl, cached, answer⟩ := reconfigures
    obtain ⟨dropped, drops, same⟩ := configure_eq_nothing cached answer
    obtain ⟨effects, grown, counted⟩ := dropped.outbox_refreshDiagnostics
    have frame := dropSettings_frame drops
    have said : session.emitted (.configured payload) = effects := by
      apply emitted_eq
      change (session.configure payload).2.outbox = _
      rw [same, grown, frame]
    have client : dropped.refreshesClient = session.refreshesClient := by
      rw [frame]
      rfl
    rw [said, counted, client]
    cases session.refreshesClient with
    | false => simp
    | true => simpa using ⟨payload, rfl, cached, answer⟩
  · have none : (session.emitted event).countP Effect.isRefresh = 0 := by
      rw [List.countP_eq_zero]
      intro effect member refreshes
      obtain rfl : effect = .askRefresh := by cases effect <;> first | rfl | cases refreshes
      obtain ⟨payload, rfl⟩ := wired.justified member
      have silent : session.emitted (.configured payload) = [] := by
        apply emitted_eq
        rw [List.append_nil]
        exact outbox_configure reconfigures
      rw [silent] at member
      cases member
    rw [none]
    simp [reconfigures]

end Refreshing

section Following

variable {session : Session} {payload : Json} {uri : String}

/-- What is published after a change that was handled goes back to settings from after it. -/
theorem Handled.reports (handled : session.Handled payload) (wired : session.Wired)
    (known : session.client.isSome)
    (renewed : Renewed session (session.step (.configured payload))) {events : List Event}
    {event : Event} {publication : Publication}
    (member : .publish publication ∈
      ((session.step (.configured payload)).runAll events).emitted event) :
    (event = .closed publication.uri ∧ publication = closeNotice publication.uri) ∨
      Reports session (.configured payload :: events)
        ((session.step (.configured payload)).runAll events) publication := by
  have next := wired.step (.configured payload)
  have client : (session.step (.configured payload)).client.isSome := by
    rw [wired.client_step _ known]
    exact known
  have standing := runAll_induction next
    (fun session' => Renewed session session' ∧ session'.cache.isSome)
    ⟨renewed, wired.cached_step _ handled.cached⟩ events
    fun _ event _ wired held => ⟨held.1.step wired event, wired.cached_step event held.2⟩
  rcases (next.runAll events).publishes member with notice | pushes
  · exact .inl notice
  · exact .inr (standing.1.reports wired (next.runAll events) standing.2
      (handled.governed.runAll next client events) pushes)

/-- Once no task is left after a change that was handled, every document that was open was heard of. -/
theorem Handled.heard {rule : Rule} (handled : session.Handled payload) (wired : session.Wired)
    (orderly : Orderly rule session) (current : session.CurrentFor uri)
    (renewed : Renewed session (session.step (.configured payload)))
    (stored : (session.store.get? uri).isSome) {events : List Event}
    (proper : ∀ event ∈ events, event.interferes = false)
    (done : ((session.step (.configured payload)).runAll events).tasks = []) :
    Heard session ((session.step (.configured payload)).runAll events) uri
      (((session.step (.configured payload)).runAll events).outbox.drop session.outbox.length) := by
  have pending : Revisits session (session.step (.configured payload)) uri := by
    refine ⟨session.emitted (.configured payload), wired.outbox_step _, .inl ⟨?_, ?_⟩⟩
    · rw [handled.store]
      exact stored
    · exact (handled.pushes wired stored).2
  have standing := runAll_induction (wired.step (.configured payload))
    (fun later => (Renewed session later ∧ Orderly rule later ∧ later.CurrentFor uri) ∧
      Revisits session later uri)
    ⟨⟨renewed, orderly.step wired rfl, current.step wired orderly rfl⟩, pending⟩ events
    fun later event member held standing => by
      obtain ⟨⟨renewed, orderly, current⟩, revisits⟩ := standing
      have calm := proper event member
      exact ⟨⟨renewed.step held event, orderly.step held calm, current.step held orderly calm⟩,
        revisits.step renewed wired held orderly current calm⟩
  obtain ⟨_, effects, grown, ⟨_, task, member, _⟩ | heard⟩ := standing
  · rw [done] at member
    cases member
  · rw [grown, List.drop_left]
    exact heard

end Following

/-- What follows a change of the configuration in a run. -/
structure ChangeFollowed (start : Session) (before : List Event) (payload : Json)
    (during : List Event) : Prop where
  /-- A push publishes what the rule finds under settings from after the change. -/
  pushed : ∀ first event rest publication, during = first ++ event :: rest →
    .publish publication ∈ (start.runAll (before ++ .configured payload :: first)).emitted event →
      (event = .closed publication.uri ∧ publication = closeNotice publication.uri) ∨
        Reports (start.runAll before) (.configured payload :: first)
          (start.runAll (before ++ .configured payload :: first)) publication
  /-- Once all is done, every document that was open at the change was heard of, unless something
  reaches around the protocol. -/
  heard : (∀ event ∈ before ++ .configured payload :: during, event.interferes = false) →
    (start.runAll (before ++ .configured payload :: during)).Quiescent →
      ∀ uri, ((start.runAll before).store.get? uri).isSome →
        Heard (start.runAll before) (start.runAll (before ++ .configured payload :: during)) uri
          ((start.runAll (before ++ .configured payload :: during)).outbox.drop
            (start.runAll before).outbox.length)
  /-- The client is asked to refresh once for each change that is not refused, if it can be, and at no
  other time. -/
  refreshed : ∀ first event rest, before ++ .configured payload :: during = first ++ event :: rest →
    ((start.runAll first).emitted event).countP Effect.isRefresh ≤ 1 ∧
      (((start.runAll first).emitted event).countP Effect.isRefresh = 1 ↔
        (start.runAll first).refreshesClient = true ∧ (start.runAll first).Reconfigures event)

/-- In every run, once a change of the configuration was handled, no push uses settings from before
it, every open document is validated again, and the client is asked to refresh once for the change.
A document is not heard of only when the client cancels the request for its settings. -/
theorem pushes_follow_configuration (rule : Rule) (hasPlugins : Bool) (before during : List Event)
    (payload : Json) (handled : ((fresh rule hasPlugins).runAll before).Handled payload) :
    ChangeFollowed (fresh rule hasPlugins) before payload during := by
  have start := Wired.fresh rule hasPlugins
  have early := start.runAll before
  have joined (events : List Event) :
      (fresh rule hasPlugins).runAll (before ++ .configured payload :: events) =
        (((fresh rule hasPlugins).runAll before).step (.configured payload)).runAll events :=
    runAll_append _ before (.configured payload :: events)
  have renewed := handled.renewed early fun uri => by
    rw [← runAll_concat]
    exact openFor_runAll rule hasPlugins (before ++ [.configured payload]) uri
  refine ⟨?_, ?_, ?_⟩
  · intro first event rest publication _ member
    have known := runAll_induction start (fun session => session.cache.isSome → session.client.isSome)
      (fun cached => by cases cached) before fun _ event _ wired held => wired.known_step event held
    rw [joined] at member ⊢
    exact handled.reports early (known handled.cached) renewed member
  · intro proper quiescent uri stored
    have prior : ∀ event ∈ before, event.interferes = false :=
      fun event member => proper event (List.mem_append_left _ member)
    have orderly := Orderly.fresh rule hasPlugins
    have current : (fresh rule hasPlugins).CurrentFor uri := fun task member => by cases member
    have done := quiescent.no_task (start.runAll _) ((Prompt.fresh rule hasPlugins).runAll start _)
    rw [joined] at done ⊢
    refine handled.heard early (orderly.runAll start prior) (current.runAll start orderly prior) renewed
      stored (fun event member => proper event ?_) done
    exact List.mem_append_right _ (List.mem_cons_of_mem _ member)
  · intro first event rest _
    exact (start.runAll first).refreshes_step event

/-- A document is opened and validated by a client that is asked for settings. -/
def validatedRun : List Event :=
  let uri := "file:///a.hz"
  [.handshake { support := { configuration := true } }, .opened uri "a" ⟨.int 5, rfl⟩ .null,
    .run (.start ⟨uri, 0⟩), .run (.send ⟨uri, 1⟩), .reply ⟨uri, 1⟩ (.result (.list [.null])),
    .run (.deliver ⟨uri, 1⟩), .run (.resume ⟨uri, 0⟩), .run (.retire ⟨uri, 0⟩)]

/-- The client cancels the request that its change of the configuration has led to. -/
def refusedRun : List Event :=
  let uri := "file:///a.hz"
  [.run (.start ⟨uri, 2⟩), .run (.send ⟨uri, 3⟩), .reply ⟨uri, 3⟩ .cancelled,
    .run (.deliver ⟨uri, 3⟩), .run (.resume ⟨uri, 2⟩), .run (.retire ⟨uri, 2⟩)]

/-- The document is open, all is done, and nothing was published or logged for it since the change: the
client has cancelled the request for its settings. -/
theorem refusedRun_silent :
    ((fresh .null true).runAll validatedRun).Handled .null ∧
      (∀ event ∈ validatedRun ++ .configured .null :: refusedRun, event.interferes = false) ∧
      ((fresh .null true).runAll (validatedRun ++ .configured .null :: refusedRun)).Quiescent ∧
      (((fresh .null true).runAll (validatedRun ++ .configured .null :: refusedRun)).store.get?
        "file:///a.hz").isSome ∧
      ((fresh .null true).runAll (validatedRun ++ .configured .null :: refusedRun)).outbox.drop
        ((fresh .null true).runAll validatedRun).outbox.length = [.askSettings "file:///a.hz"] ∧
      ∃ request, request.uri = "file:///a.hz" ∧
        ((fresh .null true).runAll validatedRun).request? request = none ∧
        ((fresh .null true).runAll (validatedRun ++ .configured .null :: refusedRun)).outcome? request =
          some .cancelled := by
  have handled : ((fresh .null true).runAll validatedRun).Handled .null := by
    refine ⟨rfl, rfl, ?_⟩
    intro fault member
    cases member
  have proper : ∀ event ∈ validatedRun ++ .configured .null :: refusedRun, event.interferes = false := by
    simp [validatedRun, refusedRun, Event.interferes]
  have quiescent : ((fresh .null true).runAll
      (validatedRun ++ .configured .null :: refusedRun)).Quiescent := ⟨rfl, rfl⟩
  have said : ((fresh .null true).runAll (validatedRun ++ .configured .null :: refusedRun)).outbox.drop
      ((fresh .null true).runAll validatedRun).outbox.length = [.askSettings "file:///a.hz"] := rfl
  refine ⟨handled, proper, quiescent, rfl, said, ?_⟩
  have heard := (pushes_follow_configuration .null true validatedRun refusedRun .null handled).heard
    proper quiescent "file:///a.hz" rfl
  rw [said] at heard
  cases heard with
  | published publication member => cases member
  | failed fault member => simp [validationFailure] at member
  | refused request here new cancelled => exact ⟨request, here, new, cancelled⟩

end Session

end HazeServer
