import HazeServer.Proofs.Session.Saying

/-! # Every hook is told

An event in the life of a document reaches the store first. Then every hook of the event is called once,
in registration order, and sees the store as the event has left it. A hook that fails costs one error
message, and the hooks after it are called all the same. What the store ignores or refuses is told to
nobody.
-/

namespace HazeServer

/-- A call of a hook, with the session in which it is made. -/
structure HookCall where
  hook : Hook
  session : Session

namespace HookCall

variable (event : DocumentEvent) (uri : String) (call : HookCall)

/-- How a hook fails, if it does. The validator fails only where the notice that a document was closed
cannot be sent. -/
def fault? : Option Fault :=
  match call.hook, event with
  | .external _ fault, _ => fault
  | .validation, .closed => call.session.transport.publishFault
  | .validation, _ => none
  | .eviction, _ => none

/-- The error message for a hook that fails. -/
def failure? : Option Effect :=
  (call.fault? event).map (Session.hookFailure event call.hook)

/-- What a hook does towards the outside. A collaborator is handed the text that the store has. -/
def effects : List Effect :=
  match call.hook, event with
  | .external name _, _ => [.hookCall name uri ((call.session.store.get? uri).map (·.text))]
  | .validation, .closed =>
      if call.session.transport.publishFault = none then [.publish (closeNotice uri)] else []
  | .validation, _ => []
  | .eviction, _ => []

/-- All that comes of a call towards the outside. -/
def said : List Effect :=
  call.effects event uri ++ (call.failure? event).toList

/-- The session after a call, with its failure logged. -/
def after : Session :=
  (call.session.callHook event uri call.hook).2.emitAll (call.failure? event).toList

end HookCall

/-- Whether an effect is an error message. -/
def Effect.isError : Effect → Bool
  | .log .error _ => true
  | _ => false

/-- Calls are made one after the other, each in the session that the one before it has left. -/
inductive CalledInTurn (event : DocumentEvent) (uri : String) : Session → List HookCall → Session → Prop where
  | done (session : Session) : CalledInTurn event uri session [] session
  | call (call : HookCall) {rest : List HookCall} {last : Session}
      (others : CalledInTurn event uri (call.after event uri) rest last) :
      CalledInTurn event uri call.session (call :: rest) last

/-- Every hook of an event was called, once the event was in the store and a message about it was sent.
Tasks that wait with a document may have kept its last state. -/
structure ToldToAll (event : DocumentEvent) (uri : String) (store : Store) (message : List Effect)
    (session after : Session) (calls : List HookCall) : Prop where
  hooks : calls.map (·.hook) = session.hooks.of event
  inTurn : ∃ tasks,
    CalledInTurn event uri { session with store, tasks, outbox := session.outbox ++ message } calls after
  seen : ∀ call ∈ calls, call.session.store = store
  said : after.outbox = session.outbox ++ message ++ calls.flatMap (·.said event uri)
  errors : after.outbox.filter Effect.isError =
    session.outbox.filter Effect.isError ++ calls.filterMap (·.failure? event)
  kept : after.store = store

section Call

variable (event : DocumentEvent) (uri : String) (call : HookCall)

/-- Taking back a push touches neither what was said nor the transport. -/
theorem outbox_cancelValidation (session : Session) :
    (session.cancelValidation uri).outbox = session.outbox ∧
      (session.cancelValidation uri).transport = session.transport := by
  rw [session.cancelValidation_frame]
  exact ⟨rfl, rfl⟩

private theorem fst_callHook : (call.session.callHook event uri call.hook).1 = call.fault? event := by
  obtain ⟨hook, session⟩ := call
  cases hook with
  | validation =>
    cases event with
    | opened => rfl
    | changed => rfl
    | closed =>
      simp only [HookCall.fault?, Session.callHook, Session.callValidator, Session.publish,
        Publication.fault?, Json.isNull, Bool.true_or, ↓reduceIte, Session.transmit,
        (outbox_cancelValidation uri session).2]
      cases session.transport.publishFault <;> rfl
  | eviction => cases event <;> rfl
  | external name fault => cases event <;> rfl

private theorem store_callHook :
    (call.session.callHook event uri call.hook).2.store = call.session.store := by
  obtain ⟨hook, session⟩ := call
  cases hook with
  | validation =>
    have cancelled := session.sameGround_cancelValidation uri
    cases event with
    | opened => exact cancelled.store
    | changed => exact cancelled.store
    | closed => exact (cancelled.trans (Session.sameGround_publish _ _)).store
  | eviction => rfl
  | external name fault => rfl

private theorem outbox_callHook :
    (call.session.callHook event uri call.hook).2.outbox =
      call.session.outbox ++ call.effects event uri := by
  obtain ⟨hook, session⟩ := call
  cases hook with
  | validation =>
    obtain ⟨outbox, transport⟩ := outbox_cancelValidation uri session
    have scheduled : (session.schedule uri).outbox = session.outbox ++ [] :=
      outbox.trans (List.append_nil _).symm
    cases event with
    | opened => exact scheduled
    | changed => exact scheduled
    | closed =>
      have valid : (closeNotice uri).fault? = none := rfl
      have published := (session.cancelValidation uri).outbox_publish (closeNotice uri)
      simp only [outbox, transport, valid, true_and] at published
      exact published
  | eviction => cases event <;> exact (List.append_nil _).symm
  | external name fault => cases event <;> rfl

private theorem outbox_after :
    (call.after event uri).outbox = call.session.outbox ++ call.said event uri := by
  simp only [HookCall.after, HookCall.said, Session.emitAll, outbox_callHook, List.append_assoc]

private theorem store_after : (call.after event uri).store = call.session.store :=
  store_callHook event uri call

private theorem notify_eq_after (session : Session) (hook : Hook) :
    Session.notify event uri session hook = (HookCall.mk hook session).after event uri := by
  have failed := fst_callHook event uri ⟨hook, session⟩
  simp only [Session.notify, HookCall.after, HookCall.failure?, ← failed]
  obtain ⟨fault, later⟩ := session.callHook event uri hook
  cases fault with
  | none => simp only [Option.map_none, Option.toList_none, Session.emitAll, List.append_nil]
  | some fault => rfl

/-- A call logs an error exactly if its hook fails. -/
theorem errors_said : (call.said event uri).filter Effect.isError = (call.failure? event).toList := by
  have own : (call.effects event uri).filter Effect.isError = [] := by
    obtain ⟨hook, session⟩ := call
    unfold HookCall.effects
    split
    · rfl
    · split <;> rfl
    · rfl
    · rfl
  rw [HookCall.said, List.filter_append, own, List.nil_append, HookCall.failure?]
  cases call.fault? event <;> rfl

end Call

namespace CalledInTurn

variable {event : DocumentEvent} {uri : String} {start last : Session} {calls : List HookCall}

private theorem store (inTurn : CalledInTurn event uri start calls last) :
    (∀ call ∈ calls, call.session.store = start.store) ∧ last.store = start.store := by
  induction inTurn with
  | done session => exact ⟨by simp, rfl⟩
  | call call others step =>
    rw [store_after] at step
    exact ⟨List.forall_mem_cons.mpr ⟨rfl, step.1⟩, step.2⟩

private theorem outbox (inTurn : CalledInTurn event uri start calls last) :
    last.outbox = start.outbox ++ calls.flatMap (·.said event uri) := by
  induction inTurn with
  | done session => exact (List.append_nil _).symm
  | call call others step => rw [step, outbox_after, List.flatMap_cons, List.append_assoc]

end CalledInTurn

/-- Calling hooks in a row makes one call for each of them, in order. -/
theorem calledInTurn_notify (event : DocumentEvent) (uri : String) (start : Session) (hooks : List Hook) :
    ∃ calls : List HookCall, calls.map (·.hook) = hooks ∧
      CalledInTurn event uri start calls (hooks.foldl (Session.notify event uri) start) := by
  induction hooks generalizing start with
  | nil => exact ⟨[], rfl, .done start⟩
  | cons hook rest step =>
    obtain ⟨calls, same, others⟩ := step (Session.notify event uri start hook)
    refine ⟨⟨hook, start⟩ :: calls, by rw [List.map_cons, same], .call ⟨hook, start⟩ ?_⟩
    rwa [← notify_eq_after event uri start hook]

private theorem errors_calls (event : DocumentEvent) (uri : String) (calls : List HookCall) :
    (calls.flatMap (·.said event uri)).filter Effect.isError = calls.filterMap (·.failure? event) := by
  induction calls with
  | nil => rfl
  | cons call rest step =>
    rw [List.flatMap_cons, List.filter_append, errors_said, step, List.filterMap_cons]
    cases call.failure? event <;> rfl

/-- A broadcast reaches every hook. -/
theorem toldToAll_broadcast (event : DocumentEvent) (uri : String) (store : Store) (message : List Effect)
    (session : Session) (tasks : List Task) (harmless : message.filter Effect.isError = []) :
    ∃ calls, ToldToAll event uri store message session
      ({ session with store, tasks, outbox := session.outbox ++ message }.broadcast event uri) calls := by
  obtain ⟨calls, same, inTurn⟩ := calledInTurn_notify event uri
    { session with store, tasks, outbox := session.outbox ++ message } (session.hooks.of event)
  refine ⟨calls, same, ⟨tasks, inTurn⟩, inTurn.store.1, inTurn.outbox, ?_, inTurn.store.2⟩
  have said := congrArg (List.filter Effect.isError) inTurn.outbox
  rw [List.filter_append, List.filter_append, harmless, List.append_nil, errors_calls] at said
  exact said

/-- What the notice that a document was opened comes to. -/
structure OpeningTold (session : Session) (uri text : String) (version language : Json) : Prop where
  taken : Uri.check uri = .ok () → ∃ after calls,
    session.didOpen uri text version language = .ok after ∧
      ToldToAll .opened uri (session.store.updated uri (session.store.newDocument uri text version language))
        [.log .info ("Document opened: " ++ uri ++ " (version " ++ version.plain ++ ")")] session after calls
  refused : ∀ fault, Uri.check uri = .error fault →
    session.attempt (session.didOpen uri text version language) = (.fault fault, session)

/-- What the notice that a document was changed comes to. A change is ignored if the document is not open
or not older than the change. -/
structure ChangeTold (session : Session) (uri : String) (version : Json) (edits : List Text.Edit) : Prop where
  taken : ∀ document, session.store.get? uri = some document → document.accepts version = .ok true →
    ∃ after calls, session.didChange uri version edits = .ok after ∧
      ToldToAll .changed uri (session.store.updated uri (document.edited version edits)) [] session after calls
  ignored : (∀ document, session.store.get? uri = some document → document.accepts version = .ok false) →
    session.didChange uri version edits =
      .ok (session.log .log ("Ignoring change for " ++ uri ++ " (version " ++ version.plain ++ ")"))
  refused : ∀ document fault, session.store.get? uri = some document →
    document.accepts version = .error fault →
      session.attempt (session.didChange uri version edits) = (.fault fault, session)

section Notices

variable (session : Session) (uri : String)

private theorem openingTold (text : String) (version language : Json) :
    OpeningTold session uri text version language where
  taken wellFormed := by
    obtain ⟨calls, told⟩ := toldToAll_broadcast .opened uri
      (session.store.updated uri (session.store.newDocument uri text version language))
      [.log .info ("Document opened: " ++ uri ++ " (version " ++ version.plain ++ ")")] session
      (session.withdraw uri).tasks rfl
    refine ⟨_, calls, ?_, told⟩
    simp only [Session.didOpen, Session.openDocument, Store.opened, wellFormed]
    rw [session.withdraw_frame]
    rfl
  refused fault malformed := by
    simp only [Session.didOpen, Session.openDocument, Store.opened, malformed]
    rfl

private theorem changeTold (version : Json) (edits : List Text.Edit) :
    ChangeTold session uri version edits where
  taken document held accepted := by
    obtain ⟨calls, told⟩ := toldToAll_broadcast .changed uri
      (session.store.updated uri (document.edited version edits)) [] session session.tasks rfl
    rw [List.append_nil] at told
    refine ⟨_, calls, ?_, told⟩
    simp only [Session.didChange, Session.changeDocument, Store.changed_of_accepts held accepted edits]
    rfl
  ignored stale := by
    simp only [Session.didChange, Session.changeDocument, Store.changed_of_ignored stale edits]
    rfl
  refused document fault held refused := by
    simp only [Session.didChange, Session.changeDocument, Store.changed_of_refused held refused edits]
    rfl

private theorem closingTold :
    ∃ calls, ToldToAll .closed uri (session.store.closed uri) [.log .info ("Document closed: " ++ uri)] session
      (session.didClose uri) calls := by
  obtain ⟨calls, told⟩ := toldToAll_broadcast .closed uri (session.store.closed uri)
    [.log .info ("Document closed: " ++ uri)] session (session.withdraw uri).tasks rfl
  have closed : (session.closeDocument uri).log .info ("Document closed: " ++ uri) =
      { session with
        store := session.store.closed uri
        tasks := (session.withdraw uri).tasks
        outbox := session.outbox ++ [.log .info ("Document closed: " ++ uri)] } := by
    unfold Session.closeDocument
    rw [session.withdraw_frame]
    rfl
  rw [Session.didClose, closed]
  exact ⟨calls, told⟩

end Notices

/-- Whatever happens to a document is told to every hook of the event, or to none of them. -/
theorem hooks_told_of_events (session : Session) :
    (∀ uri text version language, OpeningTold session uri text version language) ∧
      (∀ uri version edits, ChangeTold session uri version edits) ∧
      ∀ uri, ∃ calls, ToldToAll .closed uri (session.store.closed uri)
        [.log .info ("Document closed: " ++ uri)] session (session.didClose uri) calls :=
  ⟨openingTold session, changeTold session, closingTold session⟩

/-- A session with a collaborator that is told of opened documents. -/
def watchedSession : Session :=
  (Session.fresh .null true).step (.addHook .opened (.external "watch" none))

/-- Nobody is told of a document that cannot be opened. -/
theorem malformed_told_nobody :
    ¬ ∃ store message calls, ToldToAll .opened "file://[::1/a.hz" store message watchedSession
      (watchedSession.step (.opened "file://[::1/a.hz" "AB" ⟨.int 11, rfl⟩ (.text "hz"))) calls := by
  rintro ⟨store, message, calls, told⟩
  have refused : watchedSession.step (.opened "file://[::1/a.hz" "AB" ⟨.int 11, rfl⟩ (.text "hz")) =
      watchedSession := rfl
  have listed : Hook.external "watch" none ∈ calls.map (·.hook) := by
    rw [told.hooks]
    exact List.mem_cons_of_mem _ List.mem_cons_self
  obtain ⟨call, member, watches⟩ := List.mem_map.mp listed
  -- the call would have been heard
  have heard : Effect.hookCall "watch" "file://[::1/a.hz"
      ((call.session.store.get? "file://[::1/a.hz").map (·.text)) ∈ watchedSession.outbox := by
    rw [← refused, told.said]
    refine List.mem_append_right _ (List.mem_flatMap.mpr ⟨call, member, List.mem_append_left _ ?_⟩)
    simp [HookCall.effects, watches]
  cases heard

end HazeServer
