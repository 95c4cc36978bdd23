import HazeServer.Proofs.Session.Parts
import HazeServer.Rule.Uppercase

/-! # Documents do not interfere

The events about one document leave the part of a session for any other document alone, and what the
events about it do, like those about no document at all, depends on its own part only. So two runs that
differ in events about other documents agree on the part for a document all along. A run can thus be
thinned out: without what the client sends about other documents, the record of a document is the same,
and so is everything that the client is told about it.
-/

namespace HazeServer

/-- Whether an event is something that the client sends about another document: it opens, changes or
closes that, asks for something about it or replies to a request for its settings. -/
def Event.isElsewhere (uri : String) : Event → Bool
  | .opened named _ _ _ | .changed named _ _ | .closed named | .ask named _ _ => named ≠ uri
  | .reply request _ => request.uri ≠ uri
  | _ => false

private theorem Store.only_updated_of_ne (store : Store) {uri about : String} (document : Document)
    (other : about ≠ uri) : (store.updated about document).only uri = store.only uri := by
  simp only [Store.only, Store.updated, Table.only_set_of_ne _ _ other]

namespace Session

section Elsewhere

variable {session later : Session} {event : Event} {uri about : String}

private theorem only_withdraw_of_ne (session : Session) (other : about ≠ uri) :
    (session.withdraw about).only uri = session.only uri := by
  rw [withdraw_eq]
  cases session.store.get? about with
  | none => rfl
  | some document =>
    have kept : (session.tasks.map (withdrawnTask about document)).filter (·.uri = uri) =
        session.tasks.filter (·.uri = uri) := by
      rw [filter_map_own uri _ (withdrawnTask_ticket about document), List.map_congr_left (g := id),
        List.map_id]
      intro task member
      have own : task.uri = uri := of_decide_eq_true (List.mem_filter.mp member).2
      exact if_neg fun here => other (here.symm.trans own)
    simp only [only, kept]

private theorem Change.only_of_ne (change : session.Change event later) (named : event.document? = some about)
    (other : about ≠ uri) : later.only uri = session.only uri := by
  have stored {middle : Session} {store : Store} (same : middle.only uri = session.only uri)
      (kept : store.only uri = session.store.only uri) :
      ({ middle with store } : Session).only uri = session.only uri := by
    change { middle.only uri with store := store.only uri } = session.only uri
    rw [same, kept]
    rfl
  cases change with
  | still => rfl
  | opened =>
    cases named
    exact stored (session.only_withdraw_of_ne other) (Store.only_updated_of_ne _ _ other)
  | edited event uri version edits document given =>
    rcases given with ⟨_, rfl, _⟩ | rfl <;> cases named <;>
      exact stored rfl (Store.only_updated_of_ne _ _ other)
  | closed =>
    cases named
    refine stored (session.only_withdraw_of_ne other) ?_
    rw [store_withdraw]
    simp only [Store.only, Store.closed, Table.only_erase_of_ne _ other]
  | ran job =>
    have apart : job.uri ≠ uri := fun here => other ((Option.some.inj named).symm.trans here)
    have kept : (session.ready.erase job).filter (·.uri = uri) = session.ready.filter (·.uri = uri) := by
      rw [← List.erase_filter, List.erase_of_not_mem]
      simp [apart]
    simp only [only, kept]
  | _ => cases named

/-- Nothing that happens to another document touches the part for a document. -/
theorem Wired.only_step_of_ne (wired : session.Wired) (sends : session.transport.publishFault = none)
    (named : event.document? = some about) (other : about ≠ uri) :
    (session.step event).only uri = session.only uri := by
  obtain ⟨middle, change, moves⟩ := wired.moves_document named
  have same := change.only_of_ne named other
  have sending : middle.transport.publishFault = none := by
    have transport : middle.transport = session.transport := by
      have fields := congrArg Session.transport same
      exact fields
    rw [transport, sends]
  rw [moves.only_of_ne (wired.change change) sending (by rw [named]; rfl) other, same]

end Elsewhere

/-- Two sessions that agree on the part for a document. -/
structure Agree (uri : String) (left right : Session) : Prop where
  same : left.only uri = right.only uri
  left_wired : left.Wired
  right_wired : right.Wired

section Agreement

variable {left right : Session} {uri : String}

/-- What is done to the part for the document as to the whole does the same to both. -/
theorem Agree.of_exact (agree : Agree uri left right) (operation : Session → Session)
    (own : ∀ session : Session, session.Wired →
      (operation session).only uri = operation (session.only uri)) :
    (operation left).only uri = (operation right).only uri := by
  rw [own left agree.left_wired, own right agree.right_wired, agree.same]

theorem Agree.read {α : Type} (agree : Agree uri left right) (field : Session → α)
    (own : ∀ session : Session, field (session.only uri) = field session) : field left = field right := by
  rw [← own left, ← own right, agree.same]

private theorem Wired.notify {session : Session} (wired : session.Wired) (notice : DocumentEvent)
    (uri : String) (hook : Hook) : (Session.notify notice uri session hook).Wired := by
  have called : (session.callHook notice uri hook).2.Wired := by
    cases hook with
    | eviction => exact wired.evict uri
    | external name fault => exact wired.congr rfl rfl rfl rfl rfl rfl
    | validation =>
      cases notice with
      | opened => exact wired.schedule uri
      | changed => exact wired.schedule uri
      | closed => exact (wired.cancelValidation uri).publish _
  unfold Session.notify
  split
  · next same =>
    rw [same] at called
    exact called
  · next same =>
    rw [same] at called
    exact called.congr rfl rfl rfl rfl rfl rfl

/-- A hook that is called for the document does the same to both. -/
theorem Agree.notify (agree : Agree uri left right) (notice : DocumentEvent) (hook : Hook) :
    (Session.notify notice uri left hook).only uri = (Session.notify notice uri right hook).only uri := by
  have called (session : Session) : (Session.notify notice uri session hook).only uri =
      (session.callHook notice uri hook).2.only uri := by
    unfold Session.notify
    split
    · next same => rw [same]
    · next same =>
      rw [same]
      exact only_emit_of_ne _ rfl
  have scheduled : (left.schedule uri).only uri = (right.schedule uri).only uri :=
    agree.of_exact (·.schedule uri) fun _ wired => wired.only_schedule uri
  rw [called, called]
  cases hook with
  | eviction => exact agree.of_exact (·.evict uri) fun session _ => session.only_evict uri
  | external name fault =>
    change (left.emit _).only uri = (right.emit _).only uri
    rw [only_emit_of_ne left rfl, only_emit_of_ne right rfl, agree.same]
  | validation =>
    cases notice with
    | opened => exact scheduled
    | changed => exact scheduled
    | closed =>
      have taken : (left.cancelValidation uri).only uri = (right.cancelValidation uri).only uri :=
        agree.of_exact (·.cancelValidation uri) fun _ wired => wired.only_cancelValidation uri
      exact ((Projection.only uri).publish _).congr taken

private theorem Agree.notifyAll (agree : Agree uri left right) (notice : DocumentEvent) (hooks : List Hook) :
    (hooks.foldl (Session.notify notice uri) left).only uri =
      (hooks.foldl (Session.notify notice uri) right).only uri := by
  induction hooks generalizing left right with
  | nil => exact agree.same
  | cons hook rest step =>
    exact step ⟨agree.notify notice hook, agree.left_wired.notify notice uri hook,
      agree.right_wired.notify notice uri hook⟩

theorem Agree.broadcast (agree : Agree uri left right) (notice : DocumentEvent) :
    (left.broadcast notice uri).only uri = (right.broadcast notice uri).only uri := by
  unfold Session.broadcast
  rw [agree.read Session.hooks fun _ => rfl]
  exact agree.notifyAll notice _

theorem Agree.log (agree : Agree uri left right) (type : LogType) (message : String) :
    Agree uri (left.log type message) (right.log type message) := by
  exact ⟨(respects_emitAll uri [.log type message]).congr agree.same, agree.left_wired.log type message,
    agree.right_wired.log type message⟩

private theorem Agree.opened (agree : Agree uri left right) (text : String) (version : Version)
    (language : Json) :
    (left.step (.opened uri text version language)).only uri =
      (right.step (.opened uri text version language)).only uri := by
  have written (session : Session) :
      (session.afterOpening uri text version.value language).only uri =
        (session.only uri).afterOpening uri text version.value language := by
    have record : (session.only uri).store.newDocument uri text version.value language =
        session.store.newDocument uri text version.value language := rfl
    unfold afterOpening
    rw [← only_withdraw, record]
    simp only [only, Store.only, Store.updated, Table.only_set]
  rw [step_opened, step_opened]
  cases wellFormed : Uri.check uri with
  | error fault => exact agree.same
  | ok _ =>
    have next : Agree uri (left.afterOpening uri text version.value language)
        (right.afterOpening uri text version.value language) :=
      ⟨agree.of_exact (·.afterOpening uri text version.value language) fun session _ => written session,
        agree.left_wired.change (.opened uri text version language wellFormed),
        agree.right_wired.change (.opened uri text version language wellFormed)⟩
    exact (next.log _ _).broadcast .opened

private theorem Agree.closed (agree : Agree uri left right) :
    (left.step (.closed uri)).only uri = (right.step (.closed uri)).only uri := by
  have erased (session : Session) :
      (session.closeDocument uri).only uri = (session.only uri).closeDocument uri := by
    unfold closeDocument
    rw [← only_withdraw]
    simp only [only, Store.only, Store.closed, Table.only_erase]
  have next : Agree uri (left.closeDocument uri) (right.closeDocument uri) :=
    ⟨agree.of_exact (·.closeDocument uri) fun session _ => erased session,
      agree.left_wired.change (.closed uri), agree.right_wired.change (.closed uri)⟩
  exact (next.log _ _).broadcast .closed

/-- What a change of the document leads to is the same for both. -/
theorem Agree.store_changed (agree : Agree uri left right) (version : Json) (edits : List Text.Edit) :
    (∃ fault, left.store.changed uri version edits = .error fault ∧
        right.store.changed uri version edits = .error fault) ∨
      (left.store.changed uri version edits = .ok (left.store, none) ∧
        right.store.changed uri version edits = .ok (right.store, none)) ∨
      ∃ document,
        left.store.changed uri version edits = .ok (left.store.updated uri document, some document) ∧
        right.store.changed uri version edits = .ok (right.store.updated uri document, some document) := by
  have held : left.store.get? uri = right.store.get? uri :=
    agree.read (·.store.get? uri) fun session => session.get?_only uri
  have asked : left.store.change? uri version edits = right.store.change? uri version edits := by
    unfold Store.change?
    rw [held]
  unfold Store.changed
  rw [asked]
  cases right.store.change? uri version edits with
  | error fault => exact .inl ⟨fault, rfl, rfl⟩
  | ok result =>
    cases result with
    | none => exact .inr (.inl ⟨rfl, rfl⟩)
    | some document => exact .inr (.inr ⟨document, rfl, rfl⟩)

theorem Agree.updated (agree : Agree uri left right) (document : Document) :
    Agree uri { left with store := left.store.updated uri document }
      { right with store := right.store.updated uri document } := by
  refine ⟨?_, agree.left_wired.congr rfl rfl rfl rfl rfl rfl,
    agree.right_wired.congr rfl rfl rfl rfl rfl rfl⟩
  refine agree.of_exact (fun session => { session with store := session.store.updated uri document })
    fun session _ => ?_
  simp only [only, Store.only, Store.updated, Table.only_set]

private theorem Agree.changed (agree : Agree uri left right) (version : Version) (edits : List Text.Edit) :
    (left.step (.changed uri version edits)).only uri =
      (right.step (.changed uri version edits)).only uri := by
  rw [step_changed_eq, step_changed_eq]
  rcases agree.store_changed version.value edits with
    ⟨fault, first, second⟩ | ⟨first, second⟩ | ⟨document, first, second⟩ <;> rw [first, second]
  · exact agree.same
  · exact (agree.log _ _).same
  · exact (agree.updated document).broadcast .changed

private theorem Agree.storeChanged (agree : Agree uri left right) (version : Json) (edits : List Text.Edit) :
    (left.step (.storeChanged uri version edits)).only uri =
      (right.step (.storeChanged uri version edits)).only uri := by
  rw [step_storeChanged_eq, step_storeChanged_eq]
  rcases agree.store_changed version edits with
    ⟨fault, first, second⟩ | ⟨first, second⟩ | ⟨document, first, second⟩ <;> rw [first, second]
  · exact agree.same
  · exact agree.same
  · exact (agree.updated document).same

private theorem only_ask (session : Session) (uri : String) (purpose : Purpose) :
    (session.ask uri purpose).2.only uri = ((session.only uri).ask uri purpose).2 := by
  have cache : (session.only uri).cache = session.cache.map (·.only uri) := rfl
  have started := session.only_startTask uri purpose
  unfold Session.ask
  rw [cache]
  cases purpose with
  | settings id =>
    cases session.cache with
    | none => rfl
    | some cache => exact started
  | push => exact started
  | pull id => exact started
  | diagnose id => exact started

/-- The part of a document has the requests for its settings. -/
theorem only_handIn (session : Session) (request : Ticket) (reply : Reply) :
    (session.handIn request reply).2.only request.uri =
      ((session.only request.uri).handIn request reply).2 := by
  have listed : request ∈ (session.only request.uri).outstanding ↔ request ∈ session.outstanding := by
    unfold outstanding only
    simp only [List.mem_map, List.mem_filter, decide_eq_true_eq]
    constructor
    · rintro ⟨held, ⟨⟨member, _⟩, sent⟩, rfl⟩
      exact ⟨held, ⟨member, sent⟩, rfl⟩
    · rintro ⟨held, ⟨member, sent⟩, rfl⟩
      exact ⟨held, ⟨⟨member, rfl⟩, sent⟩, rfl⟩
  unfold handIn
  simp only [listed]
  split
  · change (enqueue (session.updateRequest request _) _).only request.uri = enqueue _ _
    rw [only_enqueue _ request.uri rfl, only_updateRequest]
  · rfl

private theorem Agree.evict (agree : Agree uri left right) :
    (left.step (.evict uri)).only uri = (right.step (.evict uri)).only uri := by
  have absent : left.cache.isNone = right.cache.isNone :=
    agree.read (·.cache.isNone) fun session => Option.isNone_map
  simp only [Session.step, Session.handle, absent]
  split
  · exact agree.same
  · exact agree.of_exact (·.evict uri) fun session _ => session.only_evict uri

/-- Whatever happens to the document does the same to both. -/
theorem Agree.own_step (agree : Agree uri left right) {event : Event}
    (named : event.document? = some uri) :
    (left.step event).only uri = (right.step event).only uri := by
  cases event with
  | opened about text version language =>
    cases named
    exact agree.opened text version language
  | changed about version edits =>
    cases named
    exact agree.changed version edits
  | closed about =>
    cases named
    exact agree.closed
  | ask about purpose answered =>
    cases named
    exact agree.of_exact (·.ask uri purpose |>.2) fun session _ => session.only_ask uri purpose
  | reply request reply =>
    cases named
    exact agree.of_exact (·.handIn request reply |>.2) fun session _ => session.only_handIn request reply
  | storeChanged about version edits =>
    cases named
    exact agree.storeChanged version edits
  | evict about =>
    cases named
    exact agree.evict
  | schedule about =>
    cases named
    exact agree.of_exact (·.schedule uri) fun _ wired => wired.only_schedule uri
  | cancelValidation about =>
    cases named
    exact agree.of_exact (·.cancelValidation uri) fun _ wired => wired.only_cancelValidation uri
  | run job =>
    have here := Option.some.inj named
    change (left.run job).only uri = (right.run job).only uri
    rw [agree.left_wired.only_run here, agree.right_wired.only_run here, agree.same]
  | _ => cases named

/-- Of documents that are validated anew only the one itself matters for its part. -/
theorem Wired.only_schedules {session : Session} (wired : session.Wired) (uri : String)
    (uris : List String) :
    (uris.foldl Session.schedule session).only uri =
      (uris.filter (· = uri)).foldl Session.schedule (session.only uri) := by
  induction uris generalizing session with
  | nil => rfl
  | cons named rest step =>
    rw [List.foldl_cons, step (wired.schedule named), List.filter_cons]
    -- the pushes of other documents get tickets of their own, so the order among them does not matter
    by_cases here : named = uri
    · subst here
      rw [wired.only_schedule]
      simp
    · rw [wired.only_schedule_of_ne here]
      simp [here]

private theorem Agree.schedules {first second : Session} (next : Agree uri first second) :
    (first.store.uris.foldl Session.schedule first).only uri =
      (second.store.uris.foldl Session.schedule second).only uri := by
  have listed : first.store.uris.filter (· = uri) = second.store.uris.filter (· = uri) := by
    have names := next.read (fun session => (session.store.documents.only uri).names)
      fun session => congrArg Table.names (session.store.documents.only_only uri)
    rw [Table.names_only, Table.names_only] at names
    exact names
  rw [next.left_wired.only_schedules, next.right_wired.only_schedules, listed, next.same]

private theorem Agree.refreshDiagnostics (agree : Agree uri left right) :
    left.refreshDiagnostics.only uri = right.refreshDiagnostics.only uri := by
  have silent (session : Session) : (session.emit .askRefresh).only uri = session.only uri :=
    session.only_emit_of_ne rfl
  have client : left.refreshesClient = right.refreshesClient :=
    agree.read Session.refreshesClient fun _ => rfl
  have transport : left.transport = right.transport := agree.read Session.transport fun _ => rfl
  rw [refreshDiagnostics_eq, refreshDiagnostics_eq, client, transport]
  split
  · split
    · next fault _ =>
      have told (session : Session) : (session.unrefreshed fault).only uri =
          { session.only uri with transport := { session.transport with refreshFault := none } } := by
        rw [unrefreshed, only_emit_of_ne _ rfl]
        exact congrArg (fun later : Session =>
          { later with transport := { session.transport with refreshFault := none } }) (silent session)
      rw [told, told, agree.same, transport]
    · -- the number of refresh requests is not part of the document, and may differ
      have next : Agree uri left.refreshing right.refreshing := by
        refine ⟨?_, agree.left_wired.congr rfl rfl rfl rfl rfl rfl,
          agree.right_wired.congr rfl rfl rfl rfl rfl rfl⟩
        exact ((silent left).trans agree.same).trans (silent right).symm
      exact next.schedules
  · exact agree.schedules

private theorem Agree.configured (agree : Agree uri left right) (payload : Json) :
    (left.step (.configured payload)).only uri = (right.step (.configured payload)).only uri := by
  have absent : left.cache.isNone = right.cache.isNone :=
    agree.read (·.cache.isNone) fun session => Option.isNone_map
  have client : left.asksClient = right.asksClient := agree.read Session.asksClient fun _ => rfl
  have validated {first second : Session} (next : Agree uri first second) :
      (if first.hasPlugins then (Answer.nothing, first.refreshDiagnostics)
          else (.fault (.componentMissing "refresh_diagnostics"), first)).2.only uri =
        (if second.hasPlugins then (Answer.nothing, second.refreshDiagnostics)
          else (.fault (.componentMissing "refresh_diagnostics"), second)).2.only uri := by
    rw [next.read Session.hasPlugins fun _ => rfl]
    split
    · exact next.refreshDiagnostics
    · exact next.same
  change (left.configure payload).2.only uri = (right.configure payload).2.only uri
  unfold Session.configure dropSettings
  rw [absent, client]
  split
  · exact agree.same
  · cases asks : right.asksClient with
    | true =>
      refine validated ⟨?_, agree.left_wired.clearEntries, agree.right_wired.clearEntries⟩
      exact agree.of_exact Session.clearEntries fun session _ =>
        session.only_updateEntries uri _ _ fun _ => rfl
    | false =>
      unfold updateGlobal
      cases valid : Settings.ofPayload payload with
      | error fault => exact agree.same
      | ok settings =>
        refine validated ⟨?_, agree.left_wired.change (.shared payload settings (client ▸ asks) valid),
          agree.right_wired.change (.shared payload settings asks valid)⟩
        refine agree.of_exact (fun session => { session with
          cache := session.cache.map fun cache : Cache => { cache with global := settings } })
          fun session _ => ?_
        unfold only
        cases session.cache <;> rfl

end Agreement

section General

variable {uri : String}

private theorem only_takeRefreshReply (session : Session) (reply : RefreshReply) :
    (session.takeRefreshReply reply).2.only uri = session.only uri := by
  unfold takeRefreshReply
  split
  · rfl
  · cases reply with
    | done => rfl
    | cancelled => rfl
    | fault fault => exact only_emit_of_ne { session with refreshes := _ } rfl

private theorem Wired.sends_step {session : Session} (wired : session.Wired) {event : Event}
    (proper : ∀ fault, event ≠ .failNextPublish fault)
    (sends : session.transport.publishFault = none) :
    (session.step event).transport.publishFault = none := by
  obtain ⟨middle, change, moves⟩ := wired.change_step event
  refine moves.keep ?_ fun move held => move.sends held
  cases change.rearranges with
  | faulty fault => exact absurd rfl (proper fault)
  | _ => exact sends

end General

section Cancelling

variable {session : Session} {events : List Event} {uri : String} {id : RequestId}

/-- The client makes a request about a document under an id. -/
def AskedIn (events : List Event) (uri : String) (id : RequestId) : Prop :=
  ∃ purpose answered, purpose.requestId? = some id ∧ .ask uri purpose answered ∈ events

theorem OnlyAnswers.asked (answers : session.OnlyAnswers events) {task : Task}
    (member : task ∈ session.tasks) (named : task.purpose.requestId? = some id) :
    AskedIn events task.uri id := by
  rcases answers task member with push | ⟨answered, asks⟩
  · rw [push] at named
    cases named
  · exact ⟨task.purpose, answered, named, asks⟩

/-- A cancellation that is meant for the document is about its own part. -/
theorem OnlyAnswers.only_cancelRequest (answers : session.OnlyAnswers events)
    (own : ∀ about, AskedIn events about id → about = uri) :
    (session.cancelRequest id).2.only uri = ((session.only uri).cancelRequest id).2 := by
  have found : (session.only uri).tasks.reverse.find? (·.purpose.requestId? == some id) =
      session.tasks.reverse.find? (·.purpose.requestId? == some id) := by
    unfold only
    rw [← List.filter_reverse, List.find?_filter]
    apply List.find?_congr
    intro task member
    by_cases named : task.purpose.requestId? = some id
    · have here := own _ (answers.asked (List.mem_reverse.mp member) named)
      simp [named, here]
    · simp [named]
  unfold cancelRequest
  rw [found]
  cases chosen : session.tasks.reverse.find? (·.purpose.requestId? == some id) with
  | none => rfl
  | some task =>
    have member : task ∈ session.tasks := List.mem_reverse.mp (List.mem_of_find?_eq_some chosen)
    have named : task.purpose.requestId? = some id := by
      simpa only [beq_iff_eq] using List.find?_some chosen
    exact session.only_cancelTask (own _ (answers.asked member named))

/-- A cancellation that is not meant for the document leaves its part alone. -/
theorem OnlyAnswers.only_cancelRequest_of_ne (answers : session.OnlyAnswers events)
    (foreign : ¬ AskedIn events uri id) : (session.cancelRequest id).2.only uri = session.only uri := by
  unfold cancelRequest
  cases chosen : session.tasks.reverse.find? (·.purpose.requestId? == some id) with
  | none => rfl
  | some task =>
    have member : task ∈ session.tasks := List.mem_reverse.mp (List.mem_of_find?_eq_some chosen)
    have named : task.purpose.requestId? = some id := by
      simpa only [beq_iff_eq] using List.find?_some chosen
    refine session.only_cancelTask_of_ne fun here => foreign ?_
    rw [← here]
    exact answers.asked member named

end Cancelling

section Runs

variable {left right : Session} {events : List Event} {uri : String}

/-- No id that the client cancels is that of requests both about the document and about another. -/
def CancelsApart (events : List Event) (uri : String) : Prop :=
  ∀ id, .cancel id ∈ events → AskedIn events uri id → ∀ about, AskedIn events about id → about = uri

private theorem Agree.cancel (agree : Agree uri left right) (left_answers : left.OnlyAnswers events)
    (right_answers : right.OnlyAnswers events) (apart : CancelsApart events uri) {id : RequestId}
    (member : .cancel id ∈ events) :
    (left.step (.cancel id)).only uri = (right.step (.cancel id)).only uri := by
  change (left.cancelRequest id).2.only uri = (right.cancelRequest id).2.only uri
  -- an id tells whose request it is, so both sessions cancel the same task, or neither one of the document
  by_cases own : AskedIn events uri id
  · rw [left_answers.only_cancelRequest (apart id member own),
      right_answers.only_cancelRequest (apart id member own), agree.same]
  · rw [left_answers.only_cancelRequest_of_ne own, right_answers.only_cancelRequest_of_ne own,
      agree.same]

/-- What happens to both sessions does the same to the part for the document. -/
theorem Agree.step (agree : Agree uri left right) {event : Event}
    (sends : ∀ about, event.document? = some about → about ≠ uri → left.transport.publishFault = none)
    (left_answers : left.OnlyAnswers events) (right_answers : right.OnlyAnswers events)
    (apart : CancelsApart events uri) (member : event ∈ events) :
    (left.step event).only uri = (right.step event).only uri := by
  have transport : left.transport = right.transport := agree.read Session.transport fun _ => rfl
  cases named : event.document? with
  | some about =>
    by_cases here : about = uri
    · exact agree.own_step (here ▸ named)
    · have sending := sends about named here
      rw [agree.left_wired.only_step_of_ne sending named here,
        agree.right_wired.only_step_of_ne (transport ▸ sending) named here, agree.same]
  | none =>
    cases event with
    | handshake client => exact ((Projection.only uri).shakeHands client).congr agree.same
    | clientReady refusal => exact ((Projection.only uri).registerForChanges refusal).congr agree.same
    | configured payload => exact agree.configured payload
    | foldersChanged => exact (agree.log _ _).same
    | filesChanged count => exact (agree.log _ _).same
    | complete request =>
      have plugins : left.completionPlugins = right.completionPlugins :=
        agree.read Session.completionPlugins fun _ => rfl
      change (left.emitAll (completeWith left.completionPlugins request).2).only uri =
        (right.emitAll (completeWith right.completionPlugins request).2).only uri
      rw [plugins]
      exact (respects_emitAll uri _).congr agree.same
    | resolve item => exact ((Projection.only uri).resolve item).congr agree.same
    | cancel id => exact agree.cancel left_answers right_answers apart member
    | refreshReply reply =>
      change (left.takeRefreshReply reply).2.only uri = (right.takeRefreshReply reply).2.only uri
      rw [only_takeRefreshReply, only_takeRefreshReply, agree.same]
    | useRule rule => exact agree.of_exact (fun session => { session with rule, taken := 0 }) fun _ _ => rfl
    | addHook notice hook =>
      exact agree.of_exact (fun session => { session with hooks := session.hooks.add hook notice })
        fun _ _ => rfl
    | failNextPublish fault =>
      exact agree.of_exact (fun session => { session with
        transport := { session.transport with publishFault := some fault } }) fun _ _ => rfl
    | failNextRefresh fault =>
      exact agree.of_exact (fun session => { session with
        transport := { session.transport with refreshFault := some fault } }) fun _ _ => rfl
    | _ => cases named

/-- Whether, along a run, no sending is due to fail when something happens to another document. -/
def sendsElsewhere (uri : String) (session : Session) : List Event → Bool
  | [] => true
  | event :: rest =>
      (event.document?.all (· = uri) || session.transport.publishFault.isNone) &&
        (session.step event).sendsElsewhere uri rest

/-- That is so where no sending is made to fail. -/
theorem Wired.sendsElsewhere {session : Session} (wired : session.Wired)
    (sends : session.transport.publishFault = none)
    (proper : ∀ fault, .failNextPublish fault ∉ events) : session.sendsElsewhere uri events = true := by
  induction events generalizing session with
  | nil => rfl
  | cons event rest step =>
    have sending := wired.sends_step (fun fault fails => proper fault (fails ▸ List.mem_cons_self)) sends
    have later := step (wired.step event) sending fun fault member =>
      proper fault (List.mem_cons_of_mem _ member)
    simp [Session.sendsElsewhere, sends, later]

/-- Events about other documents can be left out of a run. -/
theorem Agree.runAll (agree : Agree uri left right) (left_answers : left.OnlyAnswers events)
    (right_answers : right.OnlyAnswers events) (apart : CancelsApart events uri) (kept : Event → Bool)
    (elsewhere : ∀ event, kept event = false → ∃ about, about ≠ uri ∧ event.document? = some about)
    {rest : List Event} (listed : ∀ event ∈ rest, event ∈ events)
    (sends : left.sendsElsewhere uri rest = true) :
    (left.runAll rest).only uri = (right.runAll (rest.filter kept)).only uri := by
  -- the two sessions agree on the document at every point of the longer run; where an event is left
  -- out, only the left one moves, and not in the part for the document
  induction rest generalizing left right with
  | nil => exact agree.same
  | cons event rest step =>
    have member := listed event List.mem_cons_self
    have left_wired := agree.left_wired.step event
    have answering := left_answers.step agree.left_wired member
    have listed : ∀ event ∈ rest, event ∈ events := fun other later =>
      listed other (List.mem_cons_of_mem _ later)
    obtain ⟨now, later⟩ := Bool.and_eq_true_iff.mp sends
    have sending : ∀ about, event.document? = some about → about ≠ uri →
        left.transport.publishFault = none := by
      intro about named other
      simpa [named, other] using now
    cases keeps : kept event with
    | true =>
      rw [List.filter_cons_of_pos keeps]
      exact step ⟨agree.step sending left_answers right_answers apart member, left_wired,
        agree.right_wired.step event⟩ answering (right_answers.step agree.right_wired member) listed later
    | false =>
      obtain ⟨about, other, named⟩ := elsewhere event keeps
      have same := agree.left_wired.only_step_of_ne (sending about named other) named other
      rw [List.filter_cons_of_neg (by simp [keeps])]
      exact step ⟨same.trans agree.same, left_wired, agree.right_wired⟩ answering right_answers listed later

/-- What the client sends about other documents can be left out of a run: a document has the same
record, and the client is told the same about it in the same order, namely what is published for it,
which settings are asked for and how the requests about it are answered. The ids of requests that are
cancelled must tell documents apart, and a sending that fails must not be one for another document. -/
theorem documents_apart (rule : Rule) (hasPlugins : Bool) (events : List Event) (uri : String)
    (apart : CancelsApart events uri)
    (sends : (fresh rule hasPlugins).sendsElsewhere uri events = true) :
    ((fresh rule hasPlugins).runAll (events.filter (!·.isElsewhere uri))).store.get? uri =
        ((fresh rule hasPlugins).runAll events).store.get? uri ∧
      ((fresh rule hasPlugins).runAll (events.filter (!·.isElsewhere uri))).outbox.filter (·.isFor uri) =
        ((fresh rule hasPlugins).runAll events).outbox.filter (·.isFor uri) := by
  have wired := Wired.fresh rule hasPlugins
  have idle : (fresh rule hasPlugins).OnlyAnswers events := fun _ member => nomatch member
  have elsewhere : ∀ event : Event, (!event.isElsewhere uri) = false →
      ∃ about, about ≠ uri ∧ event.document? = some about := by
    intro event dropped
    cases event <;> simp_all [Event.isElsewhere, Event.document?]
  have same := Agree.runAll ⟨rfl, wired, wired⟩ idle idle apart (!·.isElsewhere uri) elsewhere
    (fun _ member => member) sends
  constructor
  · rw [← get?_only, ← same, get?_only]
  · have said := congrArg Session.outbox same
    exact said.symm

/-- Two documents are open; a request about one is cancelled while the other is validated and pulled. -/
def interleavedRun : List Event :=
  let uri := "file:///a.hz"
  let other := "file:///b.hz"
  [.handshake { support := { configuration := true } }, .opened other "b" ⟨.int 7, rfl⟩ .null,
    .opened uri "AB" ⟨.int 8, rfl⟩ .null, .run (.start ⟨other, 0⟩), .run (.start ⟨uri, 0⟩),
    .run (.send ⟨other, 1⟩), .run (.send ⟨uri, 1⟩), .ask other (.pull (.number 7)),
    .reply ⟨other, 1⟩ (.fault (.reported .timeout "")), .reply ⟨uri, 1⟩ (.result (.list [.null])),
    .cancel (.number 7), .run (.deliver ⟨uri, 1⟩), .run (.resume ⟨uri, 0⟩),
    .ask uri (.pull (.number 8)), .run (.start ⟨uri, 2⟩), .closed other, .configured .null,
    .run (.start ⟨uri, 3⟩), .run (.send ⟨uri, 4⟩)]

theorem interleavedRun_apart :
    CancelsApart interleavedRun "file:///a.hz" ∧
      (fresh .uppercase true).sendsElsewhere "file:///a.hz" interleavedRun = true ∧
      (interleavedRun.filter (!·.isElsewhere "file:///a.hz")).length + 4 = interleavedRun.length ∧
      (((fresh .uppercase true).runAll interleavedRun).outbox.filter (·.isFor "file:///a.hz")).length = 4 ∧
      ((fresh .uppercase true).runAll (interleavedRun.filter (!·.isElsewhere "file:///a.hz"))).store.get?
          "file:///a.hz" = ((fresh .uppercase true).runAll interleavedRun).store.get? "file:///a.hz" ∧
      ((fresh .uppercase true).runAll (interleavedRun.filter (!·.isElsewhere "file:///a.hz"))).outbox.filter
          (·.isFor "file:///a.hz") =
        ((fresh .uppercase true).runAll interleavedRun).outbox.filter (·.isFor "file:///a.hz") := by
  have apart : CancelsApart interleavedRun "file:///a.hz" := by
    intro id member asked
    obtain ⟨purpose, answered, answers, asks⟩ := asked
    have named : id = .number 7 := by simpa [interleavedRun] using member
    have pulled : purpose = .pull (.number 8) := by
      simp only [interleavedRun, List.mem_cons, reduceCtorEq, List.not_mem_nil, or_false, false_or] at asks
      rcases asks with same | same
      · exact absurd (Event.ask.inj same).1 (by decide)
      · exact (Event.ask.inj same).2
    subst named pulled
    cases answers
  have sends : (fresh .uppercase true).sendsElsewhere "file:///a.hz" interleavedRun = true :=
    (Wired.fresh .uppercase true).sendsElsewhere rfl (by simp [interleavedRun])
  exact ⟨apart, sends, rfl, rfl, documents_apart .uppercase true interleavedRun "file:///a.hz" apart sends⟩

end Runs

end Session

end HazeServer
