import HazeServer.Proofs.Session.Callers

/-! # Asking again after a failure

A request that has failed is forgotten by the first task that learns of it, and the next look-up for
its document asks the client again. The tasks that were waiting are the ones to learn of it. If all of
them were cancelled before the failure arrived, nobody is left to forget it: the entry stays, and the
next look-up is the one that learns of it and is answered with the default settings.
-/

namespace HazeServer

namespace Session

/-- A look-up that begins makes a new request. Sending it asks the client, or fails for want of
time. -/
structure AsksAnew (session : Session) (lookup : Ticket) : Prop where
  new : session.request? (session.nextTicket lookup.uri) = none
  entry : (session.step (.run (.start lookup))).entryOf lookup.uri =
    some (session.nextTicket lookup.uri)
  ready : .send (session.nextTicket lookup.uri) ∈ (session.step (.run (.start lookup))).ready
  sends : (session.step (.run (.start lookup))).emitted
      (.run (.send (session.nextTicket lookup.uri))) =
    if (session.step (.run (.start lookup))).cache.any (·.timeout == 0) then
      [fetchWarning lookup.uri (.reported .timeout "")]
    else [.askSettings lookup.uri]

/-- A look-up that begins is answered with the default settings. It says nothing else, makes no
request, and leaves the document without an entry. -/
structure TakesFailure (session : Session) (lookup : Ticket) (id : RequestId) : Prop where
  answers : session.Answers (.run (.start lookup)) lookup id (.settings .default)
  requests : (session.step (.run (.start lookup))).requests = session.requests
  entry : (session.step (.run (.start lookup))).entryOf lookup.uri = none

section Next

variable {session : Session} {task : Task} {id : RequestId}

private theorem emitted_send {ticket : Ticket} (ready : .send ticket ∈ session.ready)
    (unsent : session.requestState? ticket = some .unsent) :
    session.emitted (.run (.send ticket)) =
      if session.cache.any (·.timeout == 0) then [fetchWarning ticket.uri (.reported .timeout "")]
      else [.askSettings ticket.uri] := by
  have state : (session.taking (.send ticket)).requestState? ticket = some .unsent := unsent
  have cache : (session.taking (.send ticket)).cache = session.cache := rfl
  apply emitted_eq
  change (session.run (.send ticket)).outbox = _
  rw [session.perform_taking ready]
  change ((session.taking (.send ticket)).sendRequest ticket).outbox = _
  unfold sendRequest
  simp only [state, cache]
  split <;> rfl

/-- Where there is no entry, a look-up asks anew. -/
theorem asksAnew_of_absent (wired : session.Wired) (prompt : session.Prompt)
    (found : session.task? task.ticket = some task) (asks : task.purpose = .settings id)
    (new : task.stage = .created) (live : task.cancelled = false)
    (absent : session.entryOf task.uri = none) (client : session.asksClient = true)
    (cached : session.cache.isSome) : session.AsksAnew task.ticket := by
  have ready : .start task.ticket ∈ session.ready := prompt _ ⟨task, found, new⟩
  have takes : (session.taking (.start task.ticket)).Takes _ _ _ :=
    .first task .null found new live (by simp only [Sees, asks])
  have looked : (session.taking (.start task.ticket)).lookUp task.uri = (.waiting _, _) :=
    lookUp_of_absent _ absent client cached
  have entry := takes.entryOf_step ready task.uri
  have unsent : (session.step (.run (.start task.ticket))).requestState?
      (session.nextTicket task.uri) = some .unsent := by
    change (session.run (.start task.ticket)).requestState? _ = _
    rw [session.perform_taking ready, takes.perform_eq, looked, proceed_frame]
    change ((session.taking (.start task.ticket)).askFor task.uri).2.requestState?
      (session.nextTicket task.uri) = some .unsent
    have fresh : (session.taking (.start task.ticket)).requestState? (session.nextTicket task.uri) =
        none := by
      change session.requestState? _ = none
      unfold requestState?
      rw [wired.request?_nextTicket]
      rfl
    rw [requestState?_askFor, fresh, Option.none_or]
    exact if_pos rfl
  have listed := prompt.step wired (.run (.start task.ticket)) (.send (session.nextTicket task.uri)) unsent
  refine ⟨wired.request?_nextTicket task.uri, ?_, listed, emitted_send listed unsent⟩
  rw [looked] at entry
  exact entry.trans ((entryOf_askFor _ task.uri task.uri client cached).trans (if_pos rfl))

/-- Where the entry names a request that has failed, a look-up takes the failure. -/
theorem takesFailure_of_entry {request : Ticket} (wired : session.Wired) (prompt : session.Prompt)
    (found : session.task? task.ticket = some task) (asks : task.purpose = .settings id)
    (new : task.stage = .created) (live : task.cancelled = false)
    (entry : session.entryOf task.uri = some request)
    (failed : session.outcome? request = some .failed) : session.TakesFailure task.ticket id := by
  have ready : .start task.ticket ∈ session.ready := prompt _ ⟨task, found, new⟩
  have sees : session.Sees task .null := by simp only [Sees, asks]
  have takes : (session.taking (.start task.ticket)).Takes _ _ _ :=
    .first task .null found new live sees
  have looked : (session.taking (.start task.ticket)).lookUp task.uri = _ :=
    lookUp_of_settled _ entry failed
  have joins := wired.joins ready found asks new live entry
  unfold Joins at joins
  rw [failed] at joins
  refine ⟨joins, ?_, ?_⟩
  · change (session.run (.start task.ticket)).requests = session.requests
    rw [session.perform_taking ready, takes.perform_eq, looked, proceed_frame]
    rfl
  · have learns : session.Learns (.run (.start task.ticket)) request :=
      .first task request .null ready found new live sees entry (by rw [failed]; rfl)
    have drops := learns.drops failed
    rw [(wired.entry_asked entry).1] at drops
    rcases wired.entry_step entry with kept | ⟨dropped, _⟩
    · exact absurd kept drops
    · exact dropped

end Next

/-- Once somebody has learned that a request failed, its entry is gone for good. -/
theorem Wired.entry_learned {session : Session} {request : Ticket} (wired : session.Wired)
    {first rest : List Event} {event : Event} (learns : (session.runAll first).Learns event request)
    (failed : (session.runAll (first ++ event :: rest)).outcome? request = some .failed) :
    (session.runAll (first ++ event :: rest)).entryOf request.uri ≠ some request := by
  have before := wired.runAll first
  have settled : (session.runAll first).outcome? request = some .failed := by
    have known : ((session.runAll first).outcome? request).isSome := by
      cases learns with
      | first _ _ _ _ _ _ _ _ _ settled => exact settled
      | later _ _ _ _ _ _ _ _ settled => exact settled
    obtain ⟨outcome, same⟩ := Option.isSome_iff_exists.mp known
    have final := before.outcome_runAll (event :: rest) same
    rw [← runAll_append, failed] at final
    rw [same, ← final]
  have made : (((session.runAll first).step event).request? request).isSome := by
    have kept := before.outcome_step event settled
    unfold outcome? at kept
    cases found : ((session.runAll first).step event).request? request with
    | none => rw [found] at kept; cases kept
    | some held => rfl
  rw [runAll_append]
  exact (before.step event).entry_lost_runAll made (learns.drops settled) rest

/-- A request has failed, and every caller that is left was cancelled. Then its entry is gone as soon
as one caller has learned of the failure, and the next look-up asks the client again. The entry is still
there only if every caller there ever was has been cancelled; the next look-up then takes the failure,
and no request goes out for it. -/
theorem failed_entry_awaits_live_caller (start : Start) (events : List Event) (request : Ticket)
    (failed : (start.session.runAll events).outcome? request = some .failed)
    (released : ∀ task, (start.session.runAll events).Caller request task → task.cancelled = true) :
    (∀ first event rest, events = first ++ event :: rest →
        (start.session.runAll first).Learns event request →
        (start.session.runAll events).entryOf request.uri ≠ some request) ∧
      ((start.session.runAll events).entryOf request.uri = some request →
        ∀ first rest task, events = first ++ rest →
          (start.session.runAll first).Caller request task →
          ∃ early late held, rest = early ++ late ∧ task.Continues held ∧
            (start.session.runAll (first ++ early)).Caller request held ∧ held.cancelled = true) ∧
      ∀ task id, (start.session.runAll events).task? task.ticket = some task →
        task.uri = request.uri → task.purpose = .settings id → task.stage = .created →
        task.cancelled = false →
        ((start.session.runAll events).entryOf request.uri = none →
            (start.session.runAll events).AsksAnew task.ticket) ∧
          ((start.session.runAll events).entryOf request.uri = some request →
            (start.session.runAll events).TakesFailure task.ticket id) := by
  have wired := start.wired.runAll events
  have prompt := start.prompt.runAll start.wired events
  have learned (first : List Event) (event : Event) (rest : List Event)
      (split : events = first ++ event :: rest)
      (learns : (start.session.runAll first).Learns event request) :
      (start.session.runAll events).entryOf request.uri ≠ some request := by
    subst split
    exact start.wired.entry_learned learns failed
  refine ⟨learned, ?_, ?_⟩
  · intro entry first rest task split caller
    subst split
    rcases caller.runAll (start.wired.runAll first) rest with
      ⟨held, still, continues⟩ | ⟨early, event, late, held, rfl, continues, waits, released⟩
    · -- it still waits, so it is one of those that are left
      rw [← runAll_append] at still
      exact ⟨rest, [], held, by simp, continues, still, released held still⟩
    · rw [← runAll_append] at waits released
      cases released with
      | dismissed cancelled => exact ⟨early, event :: late, held, rfl, continues, waits, cancelled⟩
      | learned live learns =>
        exact absurd entry (learned (first ++ early) event late (by simp) learns)
  · intro task id found here asks new live
    have made : (start.session.runAll events).requests ≠ [] := by
      intro none
      simp [outcome?, request?, none] at failed
    obtain ⟨client, cached⟩ := serves_runAll start.wired start.requests events made
    constructor
    · intro absent
      exact asksAnew_of_absent wired prompt found asks new live (here ▸ absent) client cached
    · intro entry
      exact takesFailure_of_entry wired prompt found asks new live (here ▸ entry) failed

/-- A look-up makes a request and is cancelled; the request then fails, and a second look-up is asked
for. -/
def abandonedRun : List Event :=
  let uri := "file:///a.hz"
  [.ask uri (.settings (.number 3)), .run (.start ⟨uri, 0⟩), .run (.send ⟨uri, 1⟩),
    .cancel (.number 3), .run (.resume ⟨uri, 0⟩), .reply ⟨uri, 1⟩ (.fault (.reported .runtime "down")),
    .run (.deliver ⟨uri, 1⟩), .ask uri (.settings (.number 4))]

/-- Nobody is left to learn of the failure, and the second look-up does not ask again. -/
theorem abandonedRun_silent :
    ((Start.cache { configuration := true } 5).session.runAll abandonedRun).outcome?
        ⟨"file:///a.hz", 1⟩ = some .failed ∧
      ((Start.cache { configuration := true } 5).session.runAll abandonedRun).entryOf "file:///a.hz" =
        some ⟨"file:///a.hz", 1⟩ ∧
      (∀ task, ¬ ((Start.cache { configuration := true } 5).session.runAll abandonedRun).Caller
        ⟨"file:///a.hz", 1⟩ task) ∧
      ((Start.cache { configuration := true } 5).session.runAll abandonedRun).TakesFailure
        ⟨"file:///a.hz", 2⟩ (.number 4) := by
  have gone (task : Task) :
      ¬ ((Start.cache { configuration := true } 5).session.runAll abandonedRun).Caller
        ⟨"file:///a.hz", 1⟩ task := by
    rintro ⟨member, waits⟩
    cases List.mem_singleton.mp member
    cases waits
  refine ⟨rfl, rfl, gone, ?_⟩
  exact ((failed_entry_awaits_live_caller (.cache { configuration := true } 5) abandonedRun
    ⟨"file:///a.hz", 1⟩ rfl fun task caller => absurd caller (gone task)).2.2
      ⟨⟨"file:///a.hz", 2⟩, .settings (.number 4), .created, false⟩ (.number 4) rfl rfl rfl rfl rfl).2 rfl

end Session

end HazeServer
