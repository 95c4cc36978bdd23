import HazeServer.Proofs.Session.Callers
import HazeServer.Proofs.Session.Upkeep

/-! # Changes of the configuration

A change of the configuration drops what is known of the settings, and a new push takes the place of
every one under way. A push that has begun is about an open document, so none that began before the
change is left after it, and whatever a push looks up from then on was asked for after the change.
-/

namespace HazeServer

namespace Session

/-- The validator is among the hooks of every notice. -/
def Listens (session : Session) : Prop :=
  ∀ notice, .validation ∈ session.hooks.of notice

/-- A push that has begun and was not cancelled is about an open document. -/
def OpenFor (session : Session) (uri : String) : Prop :=
  ∀ task ∈ session.tasks, task.uri = uri → task.purpose = .push → task.cancelled = false →
    task.stage ≠ .created → (session.store.get? uri).isSome

section Listening

variable {session later : Session} {event : Event} {uri : String}

theorem Listens.fresh (rule : Rule) (hasPlugins : Bool) : (Session.fresh rule hasPlugins).Listens :=
  (Orderly.fresh rule hasPlugins).told

private theorem Listens.step (listens : session.Listens) (wired : session.Wired) (event : Event) :
    (session.step event).Listens := by
  obtain ⟨middle, change, moves⟩ := wired.change_step event
  unfold Listens
  rw [moves.sameGround.hooks]
  cases change.rearranges with
  | greeted => exact fun notice => mem_hooks_add _ _ _ notice _ (listens notice)
  | hooked => exact fun notice => mem_hooks_add _ _ _ notice _ (listens notice)
  | _ => exact listens

private theorem OpenFor.move {about : String} (stands : session.OpenFor uri) (wired : session.Wired)
    (move : Move event about session later) : later.OpenFor uri := by
  intro task member here push live begun
  rw [move.sameGround.store]
  cases move.origin wired member with
  | kept _ held => exact stands task held here push live begun
  | cancelled => cases live
  | waits held request version _ _ _ _ _ sees =>
    unfold Sees at sees
    rw [show held.purpose = .push from push] at sees
    subst here
    exact Option.isSome_of_mem (Option.map_eq_some_iff.mp sees.2).choose_spec.1
  | asked => exact absurd rfl begun
  | scheduled => exact absurd rfl begun

theorem OpenFor.moves (stands : session.OpenFor uri) (wired : session.Wired)
    (moves : AnyMoves event session later) : later.OpenFor uri :=
  wired.keep moves (OpenFor · uri) stands fun wired move held => held.move wired move

/-- The validator that is told of a closed document leaves no push for it. -/
theorem openFor_notify_closed (wired : session.Wired) :
    (notify .closed uri session .validation).OpenFor uri := by
  have tasks : (notify .closed uri session .validation).tasks = (session.cancelValidation uri).tasks := by
    have published := (session.cancelValidation uri).tasks_publish ⟨uri, .null, []⟩
    unfold notify callHook callValidator
    cases called : (session.cancelValidation uri).publish ⟨uri, .null, []⟩ with
    | mk failure later =>
      rw [called] at published
      cases failure <;> exact published
  intro task member here push live
  rw [tasks] at member
  rw [wired.cancelled_of_cancelValidation uri member here push] at live
  cases live

private theorem Listens.closed (listens : session.Listens) (wired : session.Wired) (uri : String) :
    (session.step (.closed uri)).OpenFor uri := by
  have notified : (Event.closed uri).notifies .closed uri = true := by simp [Event.notifies]
  have change : session.Change (.closed uri) (session.closeDocument uri) := .closed uri
  have closed : (((session.closeDocument uri).log .info ("Document closed: " ++ uri))).Wired :=
    (wired.change change).log _ _
  have absent : (session.closeDocument uri).store.get? uri = none := by
    rw [get?_closeDocument, if_pos rfl]
  have told : .validation ∈ (session.closeDocument uri).hooks.of .closed := by
    change .validation ∈ (session.withdraw uri).hooks.of .closed
    rw [withdraw_frame]
    exact listens .closed
  obtain ⟨before, reached, moves⟩ := broadcast_hook
    ((session.closeDocument uri).log .info ("Document closed: " ++ uri)) .closed uri told notified
    fun _ => absent
  have ground := reached.any.sameGround
  have held := closed.moves reached.any
  have called := before.moves_notify .closed uri .validation (ground.hooks ▸ told) notified
    fun _ => ground.store ▸ absent
  exact (openFor_notify_closed held).moves (held.moves called.any) moves.any

theorem OpenFor.step (stands : session.OpenFor uri) (wired : session.Wired)
    (listens : session.Listens) (event : Event) : (session.step event).OpenFor uri := by
  by_cases closes : event = .closed uri
  · rw [closes]
    exact listens.closed wired uri
  · -- no other event removes the document, and one that is opened anew is still open
    obtain ⟨middle, change, moves⟩ := wired.change_step event
    refine OpenFor.moves ?_ (wired.change change) moves
    intro task member here push live begun
    have before : (session.store.get? uri).isSome := by
      rcases change.task member with ⟨held, _⟩ | ⟨document, held, old, _, _, rfl⟩
      · exact stands task held here push live begun
      · refine stands held old here push live fun new => begun ?_
        change held.stage.withdraw document = .created
        rw [new]
        rfl
    have recorded := change.recorded uri
    generalize middle.store.get? uri = stored at recorded
    cases recorded with
    | same => exact before
    | opened => rfl
    | closed named => exact absurd named closes
    | edited => rfl

/-- From a new session on, a push that has begun is about an open document. -/
theorem openFor_runAll (rule : Rule) (hasPlugins : Bool) (events : List Event) (uri : String) :
    ((fresh rule hasPlugins).runAll events).OpenFor uri := by
  have both := runAll_induction (Wired.fresh rule hasPlugins)
    (fun session => session.Listens ∧ session.OpenFor uri)
    ⟨.fresh rule hasPlugins, fun task member => by cases member⟩ events
    fun session event _ wired held => ⟨held.1.step wired event, held.2.step wired held.1 event⟩
  exact both.2

end Listening

/-- No push for a document that was not cancelled has begun. -/
def UnbegunFor (session : Session) (uri : String) : Prop :=
  ∀ task ∈ session.tasks, task.uri = uri → task.purpose = .push → task.cancelled = false →
    task.stage = .created

section Scheduling

variable {session : Session} {uri : String}

private theorem unbegunFor_schedule (wired : session.Wired) (uri : String) :
    (session.schedule uri).UnbegunFor uri := by
  intro task member here push live
  rcases List.mem_append.mp member with before | new
  · rw [wired.cancelled_of_cancelValidation uri before here push] at live
    cases live
  · cases List.mem_singleton.mp new
    rfl

private theorem UnbegunFor.schedule (unbegun : session.UnbegunFor uri) (wired : session.Wired)
    (other : String) :
    (session.schedule other).UnbegunFor uri := by
  intro task member here push live
  rcases List.mem_append.mp member with before | new
  · rcases mem_cancelValidation wired before with held | ⟨held, _, rfl⟩
    · exact unbegun task held here push live
    · cases live
  · cases List.mem_singleton.mp new
    rfl

private theorem PushPending.schedule (pending : session.PushPending uri) (wired : session.Wired)
    (other : String) : (session.schedule other).PushPending uri := by
  have calm (about : String) : ¬ (Event.schedule other).RunsFor about := by
    rintro ⟨job, same, _⟩
    cases same
  exact pending.moves wired (.single ⟨other, .schedule (calm other)⟩) (calm uri) rfl rfl

/-- When a push is scheduled for each of some documents, each of them has one, and it has not
begun. -/
theorem Wired.schedules (wired : session.Wired) (uris : List String)
    (listed : uri ∈ uris ∨ (session.UnbegunFor uri ∧ session.PushPending uri)) :
    (uris.foldl Session.schedule session).UnbegunFor uri ∧
      (uris.foldl Session.schedule session).PushPending uri := by
  induction uris generalizing session with
  | nil =>
    rcases listed with member | held
    · cases member
    · exact held
  | cons first rest step =>
    refine step (wired.schedule first) ?_
    rcases listed with member | ⟨unbegun, pending⟩
    · rcases List.mem_cons.mp member with rfl | later
      · exact .inr ⟨unbegunFor_schedule wired uri, session.pushPending_schedule uri⟩
      · exact .inl later
    · exact .inr ⟨unbegun.schedule wired first, pending.schedule wired first⟩

/-- What a push that is scheduled does not touch. -/
theorem schedules_frame (session : Session) (uris : List String) :
    uris.foldl Session.schedule session =
      { session with
        tasks := (uris.foldl Session.schedule session).tasks
        ready := (uris.foldl Session.schedule session).ready
        validating := (uris.foldl Session.schedule session).validating
        tickets := (uris.foldl Session.schedule session).tickets } := by
  induction uris generalizing session with
  | nil => rfl
  | cons uri rest step =>
    have first : session.schedule uri =
        { session with
          tasks := (session.schedule uri).tasks
          ready := (session.schedule uri).ready
          validating := (session.schedule uri).validating
          tickets := (session.schedule uri).tickets } := by
      unfold Session.schedule
      rw [cancelValidation_frame]
      rfl
    rw [List.foldl_cons, step, first]

end Scheduling

/-- Where the outcome of a look-up comes from: there is no cache, the client cannot be asked, or it is
what a request has led to, which is that of the entry or the one that the task has waited for. -/
inductive Drawn (session : Session) (task : Task) : Lookup → Prop where
  | early (absent : session.cache = none) : Drawn session task (.found .default)
  | shared (cache : Cache) (present : session.cache = some cache)
      (silent : session.asksClient = false) : Drawn session task (.found cache.global)
  | learned (request : Ticket) (outcome : Outcome)
      (source : session.entryOf task.uri = some request ∨ session.Caller request task)
      (settled : session.outcome? request = some outcome) :
      Drawn session task (session.learn request outcome).1

private theorem learn_taking (session : Session) (job : Job) (request : Ticket) (outcome : Outcome) :
    ((session.taking job).learn request outcome).1 = (session.learn request outcome).1 := by
  cases outcome <;> rfl

/-- A look-up that need not wait draws on one of these. -/
theorem Takes.drawn {session after : Session} {job : Job} {turn : Turn}
    (takes : (session.taking job).Takes job turn after)
    (settled : ∀ request, turn.lookup ≠ .waiting request) : session.Drawn turn.task turn.lookup := by
  cases takes with
  | later task request subject version outcome found waits live known =>
    have caller : session.Caller request task :=
      ⟨mem_of_task? found, waitsFor_iff.mpr ⟨subject, version, waits⟩⟩
    rw [learn_taking]
    exact .learned request outcome (.inr caller) known
  | first task version found new live sees =>
    simp only at settled ⊢
    cases present : session.cache with
    | none =>
      rw [(session.taking (.start task.ticket)).lookUp_of_early present]
      exact .early present
    | some cache =>
      cases asks : session.asksClient with
      | false =>
        rw [(session.taking (.start task.ticket)).lookUp_of_shared present asks]
        exact .shared cache present asks
      | true =>
        cases entry : session.entryOf task.uri with
        | none =>
          have cached : session.cache.isSome := by rw [present]; rfl
          rw [(session.taking (.start task.ticket)).lookUp_of_absent entry asks cached] at settled
          exact absurd rfl (settled _)
        | some request =>
          cases known : session.outcome? request with
          | none =>
            rw [(session.taking (.start task.ticket)).lookUp_of_unsettled entry known] at settled
            exact absurd rfl (settled _)
          | some outcome =>
            rw [(session.taking (.start task.ticket)).lookUp_of_settled entry known, learn_taking]
            exact .learned request outcome (.inl entry) known

/-- A change of the configuration is handled, and nothing fails on the way. -/
structure Handled (session : Session) (payload : Json) : Prop where
  cached : session.cache.isSome
  answer : (session.handle (.configured payload)).1 = .nothing
  clean : ∀ fault, refreshFailure validatorName fault ∉ session.emitted (.configured payload)

/-- What a change of the configuration comes to: it comes before the handshake, cannot be read, is
taken in, or finds no plugins to tell. -/
inductive Configures (session : Session) (payload : Json) : Answer × Session → Prop where
  | early (absent : session.cache = none) : Configures session payload (.nothing, session)
  | refused (fault : Fault) : Configures session payload (.fault fault, session)
  | taken (dropped : Session) (drops : session.dropSettings payload = .ok dropped)
      (cached : session.cache.isSome) :
      Configures session payload (.nothing, dropped.refreshDiagnostics)
  | lacking (dropped : Session) (drops : session.dropSettings payload = .ok dropped)
      (lacks : session.hasPlugins = false) :
      Configures session payload (.fault (.componentMissing "refresh_diagnostics"), dropped)

section Handling

variable {session : Session} {payload : Json} {uri : String}

theorem dropSettings_cases {dropped : Session} (drops : session.dropSettings payload = .ok dropped) :
    (session.asksClient = true ∧ dropped = session.clearEntries) ∨
      (session.asksClient = false ∧ ∃ settings, Settings.ofPayload payload = .ok settings ∧
        dropped = { session with
          cache := session.cache.map fun cache => { cache with global := settings } }) := by
  unfold dropSettings updateGlobal at drops
  cases asks : session.asksClient with
  | true =>
    rw [asks] at drops
    cases drops
    exact .inl ⟨rfl, rfl⟩
  | false =>
    rw [asks] at drops
    cases valid : Settings.ofPayload payload with
    | error fault =>
      rw [valid] at drops
      cases drops
    | ok settings =>
      rw [valid] at drops
      cases drops
      exact .inr ⟨rfl, settings, rfl, rfl⟩

theorem dropSettings_frame {dropped : Session} (drops : session.dropSettings payload = .ok dropped) :
    dropped = { session with cache := dropped.cache } := by
  rcases dropSettings_cases drops with ⟨_, rfl⟩ | ⟨_, settings, _, rfl⟩ <;> rfl

theorem configures (session : Session) (payload : Json) :
    session.Configures payload (session.configure payload) := by
  unfold configure
  cases present : session.cache with
  | none => exact .early present
  | some cache =>
    have cached : session.cache.isSome := by rw [present]; rfl
    simp only [Option.isNone_some, Bool.false_eq_true, ↓reduceIte]
    cases drops : session.dropSettings payload with
    | error fault => exact .refused fault
    | ok dropped =>
      have same : dropped.hasPlugins = session.hasPlugins := by rw [dropSettings_frame drops]
      simp only [same]
      cases plugins : session.hasPlugins with
      | false => exact .lacking dropped drops plugins
      | true => exact .taken dropped drops cached

/-- A change that is not refused drops the settings and validates all open documents anew. -/
theorem configure_eq_nothing (cached : session.cache.isSome)
    (answer : (session.configure payload).1 = .nothing) :
    ∃ dropped, session.dropSettings payload = .ok dropped ∧
      (session.configure payload).2 = dropped.refreshDiagnostics := by
  have configures := session.configures payload
  generalize session.configure payload = result at configures answer ⊢
  cases configures with
  | early absent =>
    rw [absent] at cached
    cases cached
  | refused => cases answer
  | taken dropped drops => exact ⟨dropped, drops, rfl⟩
  | lacking => cases answer

/-- A change that is handled drops the settings and schedules a push for every open document. -/
theorem Handled.schedules (handled : session.Handled payload) :
    ∃ dropped refreshed, session.dropSettings payload = .ok dropped ∧
      (refreshed = dropped ∨ refreshed = dropped.refreshing) ∧
      session.step (.configured payload) = session.store.uris.foldl Session.schedule refreshed := by
  obtain ⟨dropped, drops, same⟩ := configure_eq_nothing handled.cached handled.answer
  have store : dropped.store = session.store := by rw [dropSettings_frame drops]
  have stepped : session.step (.configured payload) = dropped.refreshDiagnostics := same
  rw [refreshDiagnostics_eq, store] at stepped
  split at stepped
  · split at stepped
    · next fault _ =>
      have said : session.emitted (.configured payload) =
          [.askRefresh, refreshFailure validatorName fault] := by
        apply emitted_eq
        rw [stepped, dropSettings_frame drops]
        simp [unrefreshed, emit]
      exact absurd (said ▸ by simp) (handled.clean fault)
    · exact ⟨dropped, dropped.refreshing, drops, .inr rfl, stepped⟩
  · exact ⟨dropped, dropped, drops, .inl rfl, stepped⟩

/-- After a change no push for an open document has begun, and each has one. -/
theorem Handled.pushes (handled : session.Handled payload) (wired : session.Wired)
    (stored : (session.store.get? uri).isSome) :
    (session.step (.configured payload)).UnbegunFor uri ∧
      (session.step (.configured payload)).PushPending uri := by
  obtain ⟨dropped, refreshed, drops, same, stepped⟩ := handled.schedules
  have held : dropped.Wired := by
    rcases dropSettings_cases drops with ⟨_, rfl⟩ | ⟨_, settings, _, rfl⟩
    · exact wired.clearEntries
    · refine wired.congr rfl rfl rfl ?_ rfl rfl
      cases session.cache <;> rfl
  have ready : refreshed.Wired := by
    rcases same with rfl | rfl
    · exact held
    · exact held.congr rfl rfl rfl rfl rfl rfl
  rw [stepped]
  exact ready.schedules session.store.uris (.inl (Store.mem_uris.mpr stored))

theorem Handled.store (handled : session.Handled payload) :
    (session.step (.configured payload)).store = session.store := by
  obtain ⟨dropped, refreshed, drops, same, stepped⟩ := handled.schedules
  rw [stepped, schedules_frame]
  rw [dropSettings_frame drops] at same
  rcases same with rfl | rfl <;> rfl

/-- After a change that is handled the cache holds what it kept when the settings were dropped. -/
theorem Handled.cache (handled : session.Handled payload) :
    ∃ dropped, session.dropSettings payload = .ok dropped ∧
      (session.step (.configured payload)).cache = dropped.cache ∧
      (session.step (.configured payload)).client = session.client := by
  obtain ⟨dropped, refreshed, drops, same, stepped⟩ := handled.schedules
  refine ⟨dropped, drops, ?_, ?_⟩ <;> rw [stepped, schedules_frame]
  · rcases same with rfl | rfl <;> rfl
  · rw [dropSettings_frame drops] at same
    rcases same with rfl | rfl <;> rfl

/-- After a change that is handled no document has an entry. -/
theorem Handled.entry (handled : session.Handled payload) (uri : String) :
    (session.step (.configured payload)).entryOf uri = none := by
  obtain ⟨dropped, drops, cache, client⟩ := handled.cache
  rcases dropSettings_cases drops with ⟨_, rfl⟩ | ⟨silent, settings, _, rfl⟩
  · have same : (session.step (.configured payload)).entryOf uri = session.clearEntries.entryOf uri :=
      entryOf_congr (show _ = session.clearEntries.client from client) cache uri
    rw [same]
    exact session.entryOf_clearEntries uri
  · apply entryOf_of_silent
    unfold asksClient
    rw [client]
    exact silent

end Handling

end Session

end HazeServer
