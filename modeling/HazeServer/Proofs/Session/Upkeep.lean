import HazeServer.Proofs.Session.Publishing

/-! # Upkeep of pushes

As long as nobody interferes, the validator is told of every change in the store and the transport
takes every publication. Then a push that was not cancelled waits only with the stored document at
the version it saw, and an open document whose push is not pending has been validated.
-/

namespace HazeServer

/-- Whether an event interferes with the server from outside the protocol. -/
def Event.interferes : Event → Bool
  | .storeChanged .. | .cancelValidation _ | .useRule _ | .failNextPublish _ => true
  | _ => false

namespace Session

/-- What holds of a session with which nobody has interfered. -/
structure Orderly (rule : Rule) (session : Session) : Prop where
  rule_eq : session.rule = rule
  told : ∀ event, .validation ∈ session.hooks.of event
  sends : session.transport.publishFault = none
  documents : ∀ uri document, session.store.get? uri = some document →
    document.uri = uri ∧ isSendableVersion document.version = true

theorem Orderly.fresh (rule : Rule) (hasPlugins : Bool) :
    Orderly rule (Session.fresh rule hasPlugins) := by
  refine ⟨rfl, fun event => ?_, rfl, ?_⟩
  · cases event <;> simp [Session.fresh, Hooks.of, Hooks.withValidator, Hooks.add]
  · intro uri document held
    cases held

theorem mem_hooks_add (hooks : Hooks) (hook other : Hook) (event named : DocumentEvent)
    (member : hook ∈ hooks.of event) : hook ∈ (hooks.add other named).of event := by
  cases event <;> cases named <;> simp_all [Hooks.of, Hooks.add]

/-- The transport does not begin to fail by itself. -/
theorem Move.sends {event : Event} {uri : String} {session later : Session}
    (move : Move event uri session later) (sends : session.transport.publishFault = none) :
    later.transport.publishFault = none := by
  have published (publication : Publication) :
      (session.publish publication).2.transport.publishFault = none := by
    rcases session.publish_cases publication with ⟨_, same⟩ | ⟨_, _, _, cleared, same⟩ | ⟨_, _, same⟩ <;>
      rw [same]
    · exact sends
    · exact cleared
    · exact sends
  cases move with
  | push => exact published _
  | notice => exact published _
  | refresh refreshes transport _ kept => exact kept.trans sends
  | schedule =>
    change (session.cancelValidation uri).transport.publishFault = none
    rw [cancelValidation_frame]
    exact sends
  | takeBack => rw [cancelValidation_frame]; exact sends
  | cancel => rw [cancelTask_frame]; exact sends
  | finish => rw [endTask_frame]; exact sends
  | settle => rw [settleRequest_frame]; exact sends
  | retire => rw [runRetire_frame]; exact sends
  | tell => exact sends
  | answer => exact sends
  | count => exact sends
  | begin => exact sends
  | wait => exact sends
  | ask => exact sends
  | evict => exact sends
  | sent => exact sends
  | receive => exact sends

theorem Change.orderly {rule : Rule} {event : Event} {session later : Session}
    (change : session.Change event later) (orderly : Orderly rule session)
    (proper : event.interferes = false) : Orderly rule later := by
  have documents : ∀ uri document, later.store.get? uri = some document →
      document.uri = uri ∧ isSendableVersion document.version = true := by
    intro uri document held
    have recorded := change.recorded uri
    rw [held] at recorded
    generalize same : some document = stored at recorded
    cases recorded with
    | same => exact orderly.documents uri document same.symm
    | opened text version language =>
      cases same
      exact ⟨rfl, version.sendable⟩
    | closed => cases same
    | edited version edits before given stored =>
      cases same
      rcases given with ⟨given, _, rfl⟩ | rfl
      · exact ⟨(orderly.documents uri before stored).1, given.sendable⟩
      · cases proper
  cases change.rearranges with
  | ruled => cases proper
  | faulty => cases proper
  | greeted =>
    exact { orderly with told := fun event => mem_hooks_add _ _ _ event _ (orderly.told event), documents }
  | hooked named hook =>
    exact { orderly with told := fun event => mem_hooks_add _ _ _ event _ (orderly.told event), documents }
  | nothing => exact { orderly with documents }
  | cleared => exact { orderly with documents }
  | shared => exact { orderly with documents }

private theorem Orderly.move {rule : Rule} {event : Event} {uri : String} {session later : Session}
    (orderly : Orderly rule session) (move : Move event uri session later) : Orderly rule later := by
  have ground := move.sameGround
  refine ⟨ground.rule.trans orderly.rule_eq, ?_, move.sends orderly.sends, ?_⟩
  · rw [ground.hooks]
    exact orderly.told
  · rw [ground.store]
    exact orderly.documents

theorem Orderly.step {rule : Rule} {session : Session} (orderly : Orderly rule session)
    (wired : session.Wired) {event : Event} (proper : event.interferes = false) :
    Orderly rule (session.step event) := by
  obtain ⟨middle, change, moves⟩ := wired.change_step event
  exact moves.keep (change.orderly orderly proper) fun move held => held.move move

/-- Before and after a hook of a notice is called, the others only make moves. -/
theorem broadcast_hook (session : Session) {event : Event} (notice : DocumentEvent)
    (uri : String) {hook : Hook} (told : hook ∈ session.hooks.of notice)
    (notified : event.notifies notice uri = true)
    (absent : notice = .closed → session.store.get? uri = none) :
    ∃ before, Moves event uri session before ∧
      Moves event uri (notify notice uri before hook) (session.broadcast notice uri) := by
  obtain ⟨first, rest, split⟩ := List.append_of_mem told
  have listed : ∀ other ∈ first ++ hook :: rest, other ∈ session.hooks.of notice := by
    rw [split]
    exact fun _ => id
  have reached := session.moves_hooks notice uri first
    (fun other member => listed other (List.mem_append_left _ member)) notified absent
  have ground := reached.any.sameGround
  have called := moves_notify (first.foldl (notify notice uri) session) notice uri hook
    (ground.hooks ▸ told) notified (ground.store ▸ absent)
  refine ⟨first.foldl (notify notice uri) session, reached, ?_⟩
  unfold broadcast
  rw [split, List.foldl_append, List.foldl_cons]
  refine moves_hooks _ notice uri rest ?_ notified ?_
  · rw [called.any.sameGround.hooks, ground.hooks]
    exact fun other member => listed other (List.mem_append_right _ (List.mem_cons_of_mem _ member))
  · rw [called.any.sameGround.store, ground.store]
    exact absent

/-- What the validator is told of an event: nothing, if the record of the document stays as it is;
to schedule a push, or to send the notice that the document was closed. -/
inductive Told (session : Session) (event : Event) (uri : String) : Prop where
  | nothing (kept : event.renews uri = false)
      (same : (session.step event).store.get? uri = session.store.get? uri)
  | schedule (before : Session) (wired : before.Wired) (calm : ¬ event.RunsFor uri)
      (stays : event.closes uri = false) (stored : ((session.step event).store.get? uri).isSome)
      (moves : AnyMoves event (before.schedule uri) (session.step event))
  | closed (before : Session) (wired : before.Wired) (closes : event = .closed uri)
      (absent : (session.step event).store.get? uri = none)
      (moves : AnyMoves event
        ((before.cancelValidation uri).emit (.publish (closeNotice uri))) (session.step event))
      (grown : session.outbox <+: before.outbox)

private theorem notify_closed (session : Session) (uri : String)
    (sends : session.transport.publishFault = none) :
    notify .closed uri session .validation =
      (session.cancelValidation uri).emit (.publish (closeNotice uri)) := by
  have same : (session.cancelValidation uri).transport.publishFault = none := by
    rw [cancelValidation_frame]
    exact sends
  unfold notify callHook callValidator publish transmit
  simp only [Publication.fault?, Json.isNull, Bool.true_or, ↓reduceIte, same]
  rfl

theorem Wired.log {session : Session} (wired : session.Wired) (type : LogType) (message : String) :
    (session.log type message).Wired :=
  wired.congr rfl rfl rfl rfl rfl rfl

/-- The validator is told of every change in the record of a document. -/
theorem Orderly.told_step {rule : Rule} {session : Session} (orderly : Orderly rule session)
    (wired : session.Wired) {event : Event} (proper : event.interferes = false) (uri : String) :
    Told session event uri := by
  have recorded := wired.recorded event uri
  generalize after : (session.step event).store.get? uri = stored at recorded
  cases recorded with
  | same kept => exact .nothing kept after
  | opened text version language opens wellFormed =>
    subst opens
    have notified : (Event.opened uri text version language).notifies .opened uri = true := by
      simp [Event.notifies]
    have change : session.Change _ (session.afterOpening uri text version.value language) :=
      .opened uri text version language wellFormed
    have told := (change.orderly orderly proper).told .opened
    obtain ⟨before, reached, moves⟩ := broadcast_hook
      ((session.afterOpening uri text version.value language).log .info
        ("Document opened: " ++ uri ++ " (version " ++ version.value.plain ++ ")"))
      .opened uri told notified (by simp)
    refine .schedule before (((wired.change change).log _ _).moves reached.any)
      (Event.calm_of_notifies notified uri) rfl
      (by rw [after]; rfl) ?_
    rw [step_opened, wellFormed]
    exact moves.any
  | closed closes =>
    subst closes
    have notified : (Event.closed uri).notifies .closed uri = true := by simp [Event.notifies]
    have change : session.Change (.closed uri) (session.closeDocument uri) := .closed uri
    have settled := change.orderly orderly proper
    obtain ⟨before, reached, moves⟩ := broadcast_hook
      ((session.closeDocument uri).log .info ("Document closed: " ++ uri)) .closed uri
      (settled.told .closed) notified (fun _ => by
        change (session.closeDocument uri).store.get? uri = none
        rw [get?_closeDocument, if_pos rfl])
    have sends : before.transport.publishFault = none :=
      reached.any.keep settled.sends fun move => move.sends
    rw [notify_closed before uri sends] at moves
    obtain ⟨effects, grown, _⟩ := Says.moves reached.any
    refine .closed before (((wired.change change).log _ _).moves reached.any) rfl after moves.any ?_
    rw [grown]
    change session.outbox <+: ((session.closeDocument uri).outbox ++ _) ++ effects
    rw [change.outbox, List.append_assoc]
    exact List.prefix_append _ _
  | edited version edits document given held accepted =>
    rcases given with ⟨given, rfl, rfl⟩ | rfl
    · rcases session.step_changed uri given edits with
        same | ⟨message, same⟩ | ⟨other, stored, _, same⟩
      · exact .nothing rfl (by rw [same])
      · exact .nothing rfl (by rw [same]; rfl)
      · have notified : (Event.changed uri given edits).notifies .changed uri = true := by
          simp [Event.notifies]
        obtain rfl := Option.some.inj (stored.symm.trans held)
        have change : session.Change (.changed uri given edits) { session with
            store := session.store.updated uri (other.edited given.value edits) } :=
          .edited _ uri given.value edits other (.inl ⟨given, rfl, rfl⟩) stored accepted
        obtain ⟨before, reached, moves⟩ := broadcast_hook _ .changed uri
          ((change.orderly orderly proper).told .changed) notified (by simp)
        refine .schedule before ((wired.change change).moves reached.any)
          (Event.calm_of_notifies notified uri) rfl
          (by rw [after]; rfl) ?_
        rw [same]
        exact moves.any
    · cases proper

/-- The notice that a document was closed is published when it is closed. -/
theorem notice_mem_emitted {session before : Session} {uri : String}
    (moves : AnyMoves (.closed uri)
      ((before.cancelValidation uri).emit (.publish (closeNotice uri))) (session.step (.closed uri)))
    (grown : session.outbox <+: before.outbox) :
    .publish (closeNotice uri) ∈ session.emitted (.closed uri) := by
  obtain ⟨late, after, _⟩ := Says.moves moves
  obtain ⟨early, before⟩ := grown
  have said : (session.step (.closed uri)).outbox =
      session.outbox ++ (early ++ .publish (closeNotice uri) :: late) := by
    rw [after, cancelValidation_frame]
    simp [emit, ← before]
  rw [emitted_eq said]
  exact List.mem_append_right _ List.mem_cons_self

/-- A push that was not cancelled and waits is about the stored document, at the version it saw. -/
def CurrentFor (session : Session) (uri : String) : Prop :=
  ∀ task ∈ session.tasks, task.uri = uri → task.purpose = .push → task.cancelled = false →
    ∀ request subject version, task.stage = .waiting request subject version →
      subject = .stored ∧ (session.store.get? uri).map (·.version) = some version

theorem CurrentFor.move {event : Event} {uri about : String} {session later : Session}
    (current : session.CurrentFor uri) (wired : session.Wired)
    (move : Move event about session later) : later.CurrentFor uri := by
  intro task member here push live request subject version waits
  rw [move.sameGround.store]
  cases move.origin wired member with
  | kept _ held => exact current task held here push live request subject version waits
  | cancelled => cases live
  | waits held awaited seen _ _ _ _ _ sees =>
    cases waits
    unfold Sees at sees
    rw [show held.purpose = .push from push] at sees
    subst here
    exact ⟨rfl, sees.2⟩
  | asked => cases waits
  | scheduled => cases waits

private theorem CurrentFor.moves {event : Event} {uri : String} {session later : Session}
    (current : session.CurrentFor uri) (wired : session.Wired)
    (moves : AnyMoves event session later) : later.CurrentFor uri :=
  wired.keep moves (CurrentFor · uri) current fun wired move held => held.move wired move

/-- No push is left that could be out of date. -/
theorem currentFor_cancelValidation {session : Session} (wired : session.Wired) (uri : String) :
    (session.cancelValidation uri).CurrentFor uri := by
  intro task member here push live
  rw [wired.cancelled_of_cancelValidation uri member here push] at live
  cases live

private theorem currentFor_schedule {session : Session} (wired : session.Wired) (uri : String) :
    (session.schedule uri).CurrentFor uri := by
  intro task member here push live request subject version waits
  rcases List.mem_append.mp member with before | new
  · rw [wired.cancelled_of_cancelValidation uri before here push] at live
    cases live
  · cases List.mem_singleton.mp new
    cases waits

theorem CurrentFor.step {rule : Rule} {uri : String} {session : Session}
    (current : session.CurrentFor uri) (wired : session.Wired) (orderly : Orderly rule session)
    {event : Event} (proper : event.interferes = false) : (session.step event).CurrentFor uri := by
  cases orderly.told_step wired proper uri with
  | schedule before held _ _ _ moves =>
    exact (currentFor_schedule held uri).moves (held.schedule uri) moves
  | closed before held _ _ moves =>
    refine Wired.keep ?_ moves (CurrentFor · uri) ?_ fun wired move held => held.move wired move
    · exact (held.cancelValidation uri).congr rfl rfl rfl rfl rfl rfl
    · exact currentFor_cancelValidation held uri
  | nothing kept same =>
    obtain ⟨middle, change, moves⟩ := wired.change_step event
    refine CurrentFor.moves ?_ (wired.change change) moves
    intro task member here push live request subject version waits
    rw [← moves.sameGround.store, same]
    rcases change.task member with ⟨before, _⟩ | ⟨document, held, _, renewed, _, rfl⟩
    · exact current task before here push live request subject version waits
    · rw [show held.uri = uri from here, kept] at renewed
      cases renewed

/-- A push stays pending as long as no job for its document runs and the document is not closed. -/
theorem PushPending.moves {event : Event} {uri : String} {session later : Session}
    (pending : session.PushPending uri) (wired : session.Wired)
    (moves : AnyMoves event session later) (calm : ¬ event.RunsFor uri)
    (stays : event.closes uri = false) (proper : event.interferes = false) :
    later.PushPending uri := by
  refine wired.keep moves (PushPending · uri) pending fun wired move pending => ?_
  obtain ⟨task, member, here, push, live⟩ := pending
  cases move.fate wired member with
  | kept after => exact ⟨task, after, here, push, live⟩
  | ran runs => exact absurd (here ▸ runs) calm
  | superseded _ reason =>
    rcases reason with newer | closed | takenBack
    · exact here ▸ newer
    · subst closed
      simp [Event.closes, here] at stays
    · subst takenBack
      cases proper
  | cancelled id answers =>
    rw [push] at answers
    cases answers

theorem PushPending.step {uri : String} {session : Session} (pending : session.PushPending uri)
    (wired : session.Wired) {event : Event} (calm : ¬ event.RunsFor uri)
    (stays : event.closes uri = false) (proper : event.interferes = false) :
    (session.step event).PushPending uri := by
  obtain ⟨middle, change, moves⟩ := wired.change_step event
  obtain ⟨task, member, here, push, live⟩ := pending
  obtain ⟨held, after, ticket, purpose, cancelled, _⟩ := change.task_kept member
  refine PushPending.moves ⟨held, after, ?_, purpose.trans push, cancelled.trans live⟩
    (wired.change change) moves calm stays proper
  rw [Task.uri, ticket]
  exact here

theorem Orderly.runAll {rule : Rule} {session : Session} (orderly : Orderly rule session)
    (wired : session.Wired) {events : List Event}
    (proper : ∀ event ∈ events, event.interferes = false) :
    Orderly rule (session.runAll events) :=
  runAll_induction wired (Orderly rule) orderly events fun _ event member wired held =>
    held.step wired (proper event member)

end Session

end HazeServer
