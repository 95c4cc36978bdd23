import HazeServer.Proofs.Document.Store
import HazeServer.Proofs.Session.Move

/-! # Steps of a run

An event first changes something that no move does: the store, the client that is known, the
settings, the list of jobs. `Change` lists these, and `change_step` says that all the rest of a step
is moves. What holds of every change and every move so holds along every run.
-/

namespace HazeServer

namespace Event

/-- Whether an event opens a document; one whose URI is not well-formed is refused. -/
def opens (uri : String) : Event → Bool
  | .opened named .. => named = uri ∧ (Uri.check named).isOk
  | _ => false

/-- Whether an event closes a document. -/
def closes (uri : String) : Event → Bool
  | .closed named => named = uri
  | _ => false

/-- Whether an event replaces or removes the record of a document. -/
def renews (uri : String) (event : Event) : Bool :=
  event.opens uri || event.closes uri

end Event

namespace Session

/-- The session right after a document was opened in its store. -/
def afterOpening (session : Session) (uri text : String) (version language : Json) : Session :=
  { session.withdraw uri with
    store := session.store.updated uri (session.store.newDocument uri text version language) }

/-- What an event changes apart from moves. -/
inductive Change (session : Session) : Event → Session → Prop where
  | still (event : Event) (kept : ∀ uri, event.renews uri = false) : Change session event session
  | greeted (client : ClientProfile) (first : session.client = none) :
      Change session (.handshake client)
        { session with
          client := some client.support
          store := { session.store with encoding := some client.encoding }
          cache := some {}
          hooks := session.hooks.add .eviction .closed }
  | opened (uri text : String) (version : Version) (language : Json)
      (wellFormed : Uri.check uri = .ok ()) :
      Change session (.opened uri text version language)
        (session.afterOpening uri text version.value language)
  | edited (event : Event) (uri : String) (version : Json) (edits : List Text.Edit)
      (document : Document)
      (named : (∃ given, event = .changed uri given edits ∧ given.value = version) ∨
        event = .storeChanged uri version edits)
      (held : session.store.get? uri = some document)
      (accepted : document.accepts version = .ok true) :
      Change session event
        { session with store := session.store.updated uri (document.edited version edits) }
  | closed (uri : String) : Change session (.closed uri) (session.closeDocument uri)
  | cleared (payload : Json) (asks : session.asksClient = true) :
      Change session (.configured payload) session.clearEntries
  | shared (payload : Json) (settings : Settings) (silent : session.asksClient = false)
      (valid : Settings.ofPayload payload = .ok settings) :
      Change session (.configured payload)
        { session with cache := session.cache.map fun cache => { cache with global := settings } }
  | ruled (rule : Rule) : Change session (.useRule rule) { session with rule, taken := 0 }
  | hooked (event : DocumentEvent) (hook : Hook) :
      Change session (.addHook event hook) { session with hooks := session.hooks.add hook event }
  | faulty (fault : Fault) :
      Change session (.failNextPublish fault)
        { session with transport := { session.transport with publishFault := some fault } }
  | ran (job : Job) (ready : job ∈ session.ready) :
      Change session (.run job) { session with ready := session.ready.erase job }

theorem step_opened (session : Session) (uri text : String) (version : Version) (language : Json) :
    session.step (.opened uri text version language) =
      match Uri.check uri with
      | .ok _ =>
          ((session.afterOpening uri text version.value language).log .info
            ("Document opened: " ++ uri ++ " (version " ++ version.value.plain ++ ")")).broadcast
              .opened uri
      | .error _ => session := by
  change (session.attempt (session.didOpen uri text version.value language)).2 = _
  unfold didOpen openDocument Store.opened
  cases Uri.check uri <;> rfl

/-- A change is refused, ignored, or made in the stored document. -/
theorem changeDocument_cases (session : Session) (uri : String) (version : Json)
    (edits : List Text.Edit) :
    (∃ fault, session.changeDocument uri version edits = .error fault) ∨
      session.changeDocument uri version edits = .ok (none, session) ∨
      ∃ document, session.store.get? uri = some document ∧ document.accepts version = .ok true ∧
        session.changeDocument uri version edits =
          .ok (some (document.edited version edits),
            { session with store := session.store.updated uri (document.edited version edits) }) := by
  unfold changeDocument
  rcases session.store.changed_cases uri version edits with
    ⟨fault, same⟩ | same | ⟨document, held, accepted, same⟩ <;> rw [same]
  · exact .inl ⟨fault, rfl⟩
  · exact .inr (.inl rfl)
  · exact .inr (.inr ⟨document, held, accepted, rfl⟩)

theorem step_changed (session : Session) (uri : String) (version : Version)
    (edits : List Text.Edit) :
    session.step (.changed uri version edits) = session ∨
      (∃ message, session.step (.changed uri version edits) = session.log .log message) ∨
      ∃ document, session.store.get? uri = some document ∧ document.accepts version.value = .ok true ∧
        session.step (.changed uri version edits) =
          { session with
            store := session.store.updated uri (document.edited version.value edits) }.broadcast
              .changed uri := by
  change (session.attempt (session.didChange uri version.value edits)).2 = _ ∨
    (∃ message, (session.attempt (session.didChange uri version.value edits)).2 = _) ∨
    ∃ document, _ ∧ _ ∧ (session.attempt (session.didChange uri version.value edits)).2 = _
  unfold didChange
  rcases session.changeDocument_cases uri version.value edits with
    ⟨fault, same⟩ | same | ⟨document, held, accepted, same⟩ <;> rw [same]
  · exact .inl rfl
  · exact .inr (.inl ⟨_, rfl⟩)
  · exact .inr (.inr ⟨document, held, accepted, rfl⟩)

private theorem step_storeChanged (session : Session) (uri : String) (version : Json)
    (edits : List Text.Edit) :
    session.step (.storeChanged uri version edits) = session ∨
      ∃ document, session.store.get? uri = some document ∧ document.accepts version = .ok true ∧
        session.step (.storeChanged uri version edits) =
          { session with store := session.store.updated uri (document.edited version edits) } := by
  unfold step handle
  rcases session.changeDocument_cases uri version edits with
    ⟨fault, same⟩ | same | ⟨document, held, accepted, same⟩ <;> simp only [same]
  · exact .inl trivial
  · exact .inl trivial
  · exact .inr ⟨document, held, accepted, rfl⟩

theorem store_withdraw (session : Session) (uri : String) :
    (session.withdraw uri).store = session.store := by
  rw [session.withdraw_frame uri]

theorem get?_closeDocument (session : Session) (uri other : String) :
    (session.closeDocument uri).store.get? other =
      if other = uri then none else session.store.get? other := by
  unfold closeDocument
  simp only [store_withdraw]
  exact session.store.get?_closed uri other

/-- What a change does to everything but the documents, the tasks and the jobs. -/
inductive Rearranges (session : Session) : Event → Session → Prop where
  | nothing (event : Event) (store : Store) (tasks : List Task) (ready : List Job)
      (encoding : store.encoding = session.store.encoding) :
      Rearranges session event { session with store, tasks, ready }
  | greeted (client : ClientProfile) (store : Store) (first : session.client = none) :
      Rearranges session (.handshake client)
        { session with
          client := some client.support
          store
          cache := some {}
          hooks := session.hooks.add .eviction .closed }
  | cleared (payload : Json) : Rearranges session (.configured payload) session.clearEntries
  | shared (payload : Json) (settings : Settings) (silent : session.asksClient = false) :
      Rearranges session (.configured payload)
        { session with cache := session.cache.map fun cache => { cache with global := settings } }
  | ruled (rule : Rule) : Rearranges session (.useRule rule) { session with rule, taken := 0 }
  | hooked (event : DocumentEvent) (hook : Hook) :
      Rearranges session (.addHook event hook) { session with hooks := session.hooks.add hook event }
  | faulty (fault : Fault) :
      Rearranges session (.failNextPublish fault)
        { session with transport := { session.transport with publishFault := some fault } }

/-- A document that is opened, edited or closed is a matter of the documents and the tasks. -/
theorem Change.rearranges {session later : Session} {event : Event}
    (change : session.Change event later) : session.Rearranges event later := by
  cases change with
  | still => exact .nothing event session.store session.tasks session.ready rfl
  | opened uri =>
    unfold afterOpening
    rw [withdraw_frame]
    exact .nothing _ _ _ session.ready rfl
  | edited => exact .nothing event _ session.tasks session.ready rfl
  | closed uri =>
    unfold closeDocument
    rw [withdraw_frame]
    exact .nothing _ _ _ session.ready rfl
  | ran job => exact .nothing _ session.store session.tasks _ rfl
  | greeted client first => exact .greeted client _ first
  | cleared payload => exact .cleared payload
  | shared payload settings silent => exact .shared payload settings silent
  | ruled rule => exact .ruled rule
  | hooked notice hook => exact .hooked notice hook
  | faulty fault => exact .faulty fault

section Calm

variable (session : Session) {event : Event}

theorem anyMoves_emit (effect : Effect) (told : event.Tells effect) :
    AnyMoves event session (session.emit effect) :=
  (session.moves_emit event "" effect told).any

/-- The session after it has asked the client to refresh. -/
def refreshing (session : Session) : Session :=
  { session.emit .askRefresh with refreshes := session.refreshes + 1 }

/-- The session after it has failed to ask the client to refresh. -/
def unrefreshed (session : Session) (fault : Fault) : Session :=
  { session.emit .askRefresh with
    transport := { session.transport with refreshFault := none } }.emit
      (refreshFailure validatorName fault)

/-- All open documents are validated anew, unless the client is to be asked to refresh and that
fails. -/
theorem refreshDiagnostics_eq :
    session.refreshDiagnostics =
      if session.refreshesClient then
        match session.transport.refreshFault with
        | some fault => session.unrefreshed fault
        | none => session.store.uris.foldl Session.schedule session.refreshing
      else session.store.uris.foldl Session.schedule session := by
  have transport : (session.emit .askRefresh).transport = session.transport := rfl
  unfold refreshDiagnostics askRefresh
  cases session.refreshesClient with
  | false => rfl
  | true =>
    simp only [Bool.not_true, Bool.false_eq_true, ↓reduceIte, transport]
    cases session.transport.refreshFault <;> rfl

theorem anyMoves_refreshDiagnostics {payload : Json} (changes : event = .configured payload)
    (calm : ∀ uri, ¬ event.RunsFor uri) :
    AnyMoves event session session.refreshDiagnostics := by
  have told : AnyMoves event session (session.emit .askRefresh) :=
    session.anyMoves_emit .askRefresh ⟨payload, changes⟩
  have general : event.document? = none := by rw [changes]; rfl
  rw [refreshDiagnostics_eq]
  split
  · split
    · next fault _ =>
      refine .trans (.tail told ⟨"", .refresh session.refreshes _ general ?_⟩)
        (anyMoves_emit _ (refreshFailure validatorName fault) rfl)
      rfl
    · refine .trans (.tail told ⟨"", .refresh (session.refreshes + 1) session.transport general ?_⟩)
        (anyMoves_schedules _ _ calm)
      rfl
  · exact session.anyMoves_schedules _ calm

private theorem anyMoves_registerForChanges (refusal : Option Fault) :
    AnyMoves event session (session.registerForChanges refusal) := by
  unfold registerForChanges
  cases session.asksClient with
  | false => exact .refl
  | true =>
    cases refusal with
    | none => exact session.anyMoves_emit _ rfl
    | some fault =>
      exact .trans (session.anyMoves_emit _ (by rfl)) (anyMoves_emit _ _ (Event.tells_warning event (by simp)))

private theorem anyMoves_takeRefreshReply (reply : RefreshReply) :
    AnyMoves (.refreshReply reply) session (session.takeRefreshReply reply).2 := by
  have counted (noted : RefreshReply) :
      AnyMoves (.refreshReply noted) session { session with refreshes := session.refreshes - 1 } :=
    .single ⟨"", .refresh (session.refreshes - 1) session.transport rfl rfl⟩
  unfold takeRefreshReply
  split
  · exact .refl
  · cases reply with
    | done => exact counted _
    | cancelled => exact counted _
    | fault fault =>
      exact .trans (counted _) (anyMoves_emit _ _ (Event.tells_warning _ (by simp)))

private theorem tells_resolveWith (event : Event) (item : CompletionItem) (plugins : List CompletionPlugin) :
    ∀ effect ∈ (resolveWith item plugins).2, event.Tells effect := by
  induction plugins with
  | nil =>
    intro effect member
    cases List.mem_singleton.mp member
    exact event.tells_warning (by simp)
  | cons plugin rest step =>
    unfold resolveWith
    split
    · simp
    · exact step
    · intro effect member
      rcases List.mem_cons.mp member with rfl | later
      · rfl
      · exact step effect later

end Calm

section Events

variable (session : Session)

private theorem change_shakeHands (client : ClientProfile) :
    ∃ middle, session.Change (.handshake client) middle ∧
      AnyMoves (.handshake client) middle (session.shakeHands client) := by
  unfold shakeHands
  cases known : session.client with
  | some support =>
    exact ⟨session, .still _ (fun _ => rfl), session.anyMoves_emit _ (Event.tells_warning _ (by simp))⟩
  | none => exact ⟨_, .greeted client known, .refl⟩

private theorem change_configure (payload : Json) :
    ∃ middle, session.Change (.configured payload) middle ∧
      AnyMoves (.configured payload) middle (session.configure payload).2 := by
  have calm : ∀ uri, ¬ (Event.configured payload).RunsFor uri := by
    rintro uri ⟨job, same, _⟩
    cases same
  have validated (later : Session) :
      AnyMoves (.configured payload) later
        (if later.hasPlugins then (Answer.nothing, later.refreshDiagnostics)
          else (.fault (.componentMissing "refresh_diagnostics"), later)).2 := by
    split
    · exact later.anyMoves_refreshDiagnostics rfl calm
    · exact .refl
  unfold configure
  split
  · exact ⟨session, .still _ (fun _ => rfl), .refl⟩
  · unfold dropSettings
    cases asks : session.asksClient with
    | true => exact ⟨session.clearEntries, .cleared payload asks, validated _⟩
    | false =>
      unfold updateGlobal
      cases valid : Settings.ofPayload payload with
      | error fault => exact ⟨session, .still _ (fun _ => rfl), .refl⟩
      | ok settings => exact ⟨_, .shared payload settings asks valid, validated _⟩

private theorem moves_handIn (request : Ticket) (reply : Reply) :
    Moves (.reply request reply) request.uri session (session.handIn request reply).2 := by
  unfold handIn
  split
  · next outstanding => exact .single (.receive request reply rfl rfl outstanding)
  · exact .refl

private theorem moves_ask (uri : String) (purpose : Purpose) (answered : purpose.requestId?.isSome) :
    Moves (.ask uri purpose answered) uri session (session.ask uri purpose).2 := by
  have begun : Moves (.ask uri purpose answered) uri session (session.startTask uri purpose).2 :=
    .single (.begin purpose answered rfl)
  unfold ask
  split
  · exact .refl
  · exact begun

private theorem anyMoves_cancelRequest (id : RequestId) :
    AnyMoves (.cancel id) session (session.cancelRequest id).2 := by
  unfold cancelRequest
  cases chosen : session.tasks.reverse.find? (·.purpose.requestId? == some id) with
  | none => exact .refl
  | some task =>
    have member : task ∈ session.tasks := List.mem_reverse.mp (List.mem_of_find?_eq_some chosen)
    have answers : task.purpose.requestId? = some id := by
      simpa only [beq_iff_eq] using List.find?_some chosen
    exact .single ⟨task.uri, .cancel task id member rfl answers rfl⟩

private theorem moves_didClose (uri : String) :
    Moves (.closed uri) uri (session.closeDocument uri) (session.didClose uri) := by
  refine .trans (moves_emit _ _ uri _ (by rfl))
    (moves_hooks _ .closed uri _ (fun _ => id) (by simp [Event.notifies]) fun _ => ?_)
  change (session.closeDocument uri).store.get? uri = none
  rw [get?_closeDocument, if_pos rfl]

/-- After a job was taken off the list, all that happens is moves for its document. -/
theorem Wired.moves_run {session : Session} (wired : session.Wired) {job : Job}
    (ready : job ∈ session.ready) :
    Moves (.run job) job.uri { session with ready := session.ready.erase job }
      (session.run job) := by
  have taken : { session with ready := session.ready.erase job }.Wired :=
    { wired with
      retired_ended := fun ticket member => wired.retired_ended ticket (List.mem_of_mem_erase member) }
  unfold run
  rw [if_pos ready]
  refine moves_perform _ taken job ?_
  rintro ticket rfl
  exact (wired.retired_ended ticket ready).1

theorem moves_opened (uri text : String) (version : Version) (language : Json)
    (wellFormed : Uri.check uri = .ok ()) :
    Moves (.opened uri text version language) uri
      (session.afterOpening uri text version.value language)
      (session.step (.opened uri text version language)) := by
  rw [step_opened, wellFormed]
  exact .trans (moves_emit _ _ uri _ (by rfl))
    (moves_hooks _ .opened uri _ (fun _ => id) (by simp [Event.notifies]) (by simp))

theorem moves_changed (later : Session) (uri : String) (version : Version) (edits : List Text.Edit) :
    Moves (.changed uri version edits) uri later (later.broadcast .changed uri) := by
  exact moves_hooks _ .changed uri _ (fun _ => id) (by simp [Event.notifies]) (by simp)

end Events

private theorem step_evict (session : Session) (uri : String) :
    session.step (.evict uri) = session ∨ session.step (.evict uri) = session.evict uri := by
  simp only [step, handle]
  split
  · exact .inl rfl
  · exact .inr rfl

/-- An event about a document changes something, and the rest is moves for that document. -/
theorem Wired.moves_document {session : Session} (wired : session.Wired) {event : Event}
    {about : String} (named : event.document? = some about) :
    ∃ middle, session.Change event middle ∧ Moves event about middle (session.step event) := by
  cases event with
  | opened uri text version language =>
    cases named
    cases wellFormed : Uri.check about with
    | error fault =>
      rw [step_opened, wellFormed]
      refine ⟨session, .still _ (fun other => ?_), .refl⟩
      simp [Event.renews, Event.opens, Event.closes, wellFormed, Except.isOk, Except.toBool]
    | ok _ =>
      exact ⟨_, .opened about text version language wellFormed,
        session.moves_opened about text version language wellFormed⟩
  | changed uri version edits =>
    cases named
    rcases session.step_changed about version edits with
      same | ⟨message, same⟩ | ⟨document, held, accepted, same⟩ <;> rw [same]
    · exact ⟨session, .still _ (fun _ => rfl), .refl⟩
    · exact ⟨session, .still _ (fun _ => rfl), session.moves_emit _ about _ rfl⟩
    · exact ⟨_, .edited _ about version.value edits document (.inl ⟨version, rfl, rfl⟩) held accepted,
        moves_changed _ about version edits⟩
  | closed uri =>
    cases named
    exact ⟨_, .closed about, session.moves_didClose about⟩
  | ask uri purpose answered =>
    cases named
    exact ⟨session, .still _ (fun _ => rfl), session.moves_ask about purpose answered⟩
  | reply request reply =>
    cases named
    exact ⟨session, .still _ (fun _ => rfl), session.moves_handIn request reply⟩
  | storeChanged uri version edits =>
    cases named
    rcases session.step_storeChanged about version edits with
      same | ⟨document, held, accepted, same⟩ <;> rw [same]
    · exact ⟨session, .still _ (fun _ => rfl), .refl⟩
    · exact ⟨_, .edited _ about version edits document (.inr rfl) held accepted, .refl⟩
  | evict uri =>
    cases named
    refine ⟨session, .still _ (fun _ => rfl), ?_⟩
    rcases session.step_evict about with same | same <;> rw [same]
    exact .single (.evict (.inl (.inl rfl)))
  | schedule uri =>
    cases named
    refine ⟨session, .still _ (fun _ => rfl), .single (.schedule ?_)⟩
    rintro ⟨job, same, _⟩
    cases same
  | cancelValidation uri =>
    cases named
    exact ⟨session, .still _ (fun _ => rfl), .single (.takeBack (.inr rfl))⟩
  | run job =>
    cases named
    by_cases ready : job ∈ session.ready
    · exact ⟨_, .ran job ready, wired.moves_run ready⟩
    · refine ⟨session, .still _ (fun _ => rfl), ?_⟩
      change Moves _ _ session (session.run job)
      unfold run
      rw [if_neg ready]
  | _ => cases named

/-- All an event does besides its change is moves. -/
theorem Wired.change_step {session : Session} (wired : session.Wired) (event : Event) :
    ∃ middle, session.Change event middle ∧ AnyMoves event middle (session.step event) := by
  cases named : event.document? with
  | some about =>
    obtain ⟨middle, change, moves⟩ := wired.moves_document named
    exact ⟨middle, change, moves.any⟩
  | none =>
    cases event with
    | handshake client => exact session.change_shakeHands client
    | clientReady refusal =>
      exact ⟨session, .still _ (fun _ => rfl), session.anyMoves_registerForChanges refusal⟩
    | configured payload => exact session.change_configure payload
    | foldersChanged => exact ⟨session, .still _ (fun _ => rfl), session.anyMoves_emit _ rfl⟩
    | filesChanged count => exact ⟨session, .still _ (fun _ => rfl), session.anyMoves_emit _ rfl⟩
    | complete request =>
      exact ⟨session, .still _ (fun _ => rfl), .single ⟨"", .tell _ (tells_failureLogs _ _ _)⟩⟩
    | resolve item =>
      refine ⟨session, .still _ (fun _ => rfl), ?_⟩
      change AnyMoves _ session (session.resolve item).2
      unfold resolve
      split
      · exact .single ⟨"", .tell _ (tells_resolveWith _ item _)⟩
      · exact .refl
    | cancel id => exact ⟨session, .still _ (fun _ => rfl), session.anyMoves_cancelRequest id⟩
    | refreshReply reply =>
      exact ⟨session, .still _ (fun _ => rfl), session.anyMoves_takeRefreshReply reply⟩
    | useRule rule => exact ⟨_, .ruled rule, .refl⟩
    | addHook event hook => exact ⟨_, .hooked event hook, .refl⟩
    | failNextPublish fault => exact ⟨_, .faulty fault, .refl⟩
    | failNextRefresh fault =>
      exact ⟨session, .still _ (fun _ => rfl),
        .single ⟨"", .refresh session.refreshes { session.transport with refreshFault := some fault } rfl rfl⟩⟩
    | _ => cases named

theorem Wired.change {session later : Session} (wired : session.Wired) {event : Event}
    (change : session.Change event later) : later.Wired := by
  cases change with
  | still => exact wired
  | greeted client first =>
    refine { wired with entries_asked := ?_ }
    intro cache uri request present entry
    cases present
    cases entry
  | opened uri text version language _ =>
    exact (wired.withdraw uri).congr rfl rfl rfl rfl rfl rfl
  | edited => exact wired.congr rfl rfl rfl rfl rfl rfl
  | closed uri => exact (wired.withdraw uri).congr rfl rfl rfl rfl rfl rfl
  | cleared => exact wired.clearEntries
  | shared =>
    refine wired.congr rfl rfl rfl ?_ rfl rfl
    cases session.cache <;> rfl
  | ruled => exact wired.congr rfl rfl rfl rfl rfl rfl
  | hooked => exact wired.congr rfl rfl rfl rfl rfl rfl
  | faulty => exact wired.congr rfl rfl rfl rfl rfl rfl
  | ran job _ =>
    exact { wired with
      retired_ended := fun ticket member => wired.retired_ended ticket (List.mem_of_mem_erase member) }

/-- What the store holds for a document after an event. -/
inductive Recorded (session : Session) (event : Event) (uri : String) : Option Document → Prop where
  | same (kept : event.renews uri = false) : Recorded session event uri (session.store.get? uri)
  | opened (text : String) (version : Version) (language : Json)
      (opens : event = .opened uri text version language) (wellFormed : Uri.check uri = .ok ()) :
      Recorded session event uri (some (session.store.newDocument uri text version.value language))
  | closed (closes : event = .closed uri) : Recorded session event uri none
  | edited (version : Json) (edits : List Text.Edit) (document : Document)
      (given : (∃ given, event = .changed uri given edits ∧ given.value = version) ∨
        event = .storeChanged uri version edits)
      (held : session.store.get? uri = some document)
      (accepted : document.accepts version = .ok true) :
      Recorded session event uri (some (document.edited version edits))

theorem Change.recorded {session later : Session} {event : Event}
    (change : session.Change event later) (uri : String) :
    session.Recorded event uri (later.store.get? uri) := by
  cases change with
  | still _ kept => exact .same (kept uri)
  | opened named text version language wellFormed =>
    change session.Recorded _ uri ((session.store.updated named _).get? uri)
    rw [Store.get?_updated]
    by_cases own : uri = named
    · subst own
      rw [if_pos rfl]
      exact .opened text version language rfl wellFormed
    · rw [if_neg own]
      exact .same (by simp [Event.renews, Event.opens, Event.closes, Ne.symm own])
  | edited _ named version edits document given held accepted =>
    change session.Recorded _ uri ((session.store.updated named _).get? uri)
    rw [Store.get?_updated]
    by_cases own : uri = named
    · subst own
      rw [if_pos rfl]
      exact .edited version edits document given held accepted
    · rw [if_neg own]
      rcases given with ⟨_, rfl, _⟩ | rfl <;> exact .same rfl
  | closed named =>
    rw [get?_closeDocument]
    by_cases own : uri = named
    · subst own
      rw [if_pos rfl]
      exact .closed rfl
    · rw [if_neg own]
      exact .same (by simp [Event.renews, Event.opens, Event.closes, Ne.symm own])
  | greeted => exact .same rfl
  | cleared => exact .same rfl
  | shared => exact .same rfl
  | ruled => exact .same rfl
  | hooked => exact .same rfl
  | faulty => exact .same rfl
  | ran => exact .same rfl

theorem Wired.recorded {session : Session} (wired : session.Wired) (event : Event) (uri : String) :
    session.Recorded event uri ((session.step event).store.get? uri) := by
  obtain ⟨middle, change, moves⟩ := wired.change_step event
  rw [moves.sameGround.store]
  exact change.recorded uri

theorem Wired.step {session : Session} (wired : session.Wired) (event : Event) :
    (session.step event).Wired := by
  obtain ⟨middle, change, moves⟩ := wired.change_step event
  exact (wired.change change).moves moves

/-- What holds at the start and is kept by the events of a run holds after it. -/
theorem runAll_induction {start : Session} (wired : start.Wired) (invariant : Session → Prop)
    (initial : invariant start) (events : List Event)
    (kept : ∀ session, ∀ event ∈ events, session.Wired → invariant session →
      invariant (session.step event)) : invariant (start.runAll events) := by
  induction events generalizing start with
  | nil => exact initial
  | cons event rest step =>
    refine step (wired.step event) (kept start event List.mem_cons_self wired initial) ?_
    exact fun session later member => kept session later (List.mem_cons_of_mem _ member)

theorem Wired.runAll {session : Session} (wired : session.Wired) (events : List Event) :
    (session.runAll events).Wired :=
  runAll_induction wired Wired wired events fun _ event _ _ held => held.step event

theorem runAll_append (session : Session) (first second : List Event) :
    session.runAll (first ++ second) = (session.runAll first).runAll second :=
  List.foldl_append

theorem runAll_concat (session : Session) (events : List Event) (event : Event) :
    session.runAll (events ++ [event]) = (session.runAll events).step event :=
  session.runAll_append events [event]

end Session

end HazeServer
