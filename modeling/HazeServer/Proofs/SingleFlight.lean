import HazeServer.Proofs.Session.Bystanders

/-! # One request for many look-ups

The look-ups for a document share one request until its entry is given up. Everybody who waits for the
request takes the same outcome from it, and may be cancelled without a trace. Once an entry is given
up its request goes on for those who wait for it, but it does not touch the entry of a newer request. A
request that fails is logged once.
-/

namespace HazeServer

/-- Whether an effect asks the client for the settings of a document. -/
def Effect.asksFor (uri : String) : Effect → Bool
  | .askSettings named => named = uri
  | _ => false

namespace Request

/-- Whether a request is for the settings of a document and has been dealt with since it was made. -/
def hasBegun (uri : String) (request : Request) : Bool :=
  request.ticket.uri = uri &&
    match request.state with
    | .unsent => false
    | _ => true

/-- Whether a request has failed. -/
def hasFailed (request : Request) : Bool :=
  match request.state with
  | .settled .failed => true
  | _ => false

end Request

private theorem Effect.isFetch_of_asksFor {effect : Effect} {uri : String}
    (asks : effect.asksFor uri = true) :
    effect.isFetch = true := by
  cases effect <;> simp_all [asksFor, isFetch]

private theorem Effect.isFetch_of_isFetchWarning {effect : Effect} (warns : effect.isFetchWarning = true) :
    effect.isFetch = true := by
  cases effect <;> simp_all [isFetchWarning, isFetch]

namespace Session

/-- An event gives up the entry of a document: it is forgotten, or dropped by a task that learns of its
failure. -/
def Invalidates (session : Session) (event : Event) (uri : String) : Prop :=
  session.Forgets event uri ∨
    ∃ request, session.entryOf uri = some request ∧ session.outcome? request = some .failed ∧
      session.Learns event request

/-- No event of a run gives up the entry of a document. -/
def Undisturbed (session : Session) (uri : String) (events : List Event) : Prop :=
  ∀ first event rest, events = first ++ event :: rest → ¬ (session.runAll first).Invalidates event uri

section Tally

variable {session later : Session} {event : Event} {uri : String}

theorem requests_askFor (session : Session) (uri : String) :
    (session.askFor uri).2.requests = session.requests ++ [⟨session.nextTicket uri, .unsent⟩] := rfl

/-- Only one request changes when a request moves on. -/
theorem countP_updateRequest (wired : session.Wired) {ticket : Ticket} {before : RequestState}
    (held : session.requestState? ticket = some before) (after : RequestState)
    (counts : Request → Bool) :
    (session.updateRequest ticket after).requests.countP counts +
        (if counts ⟨ticket, before⟩ then 1 else 0) =
      session.requests.countP counts + (if counts ⟨ticket, after⟩ then 1 else 0) := by
  obtain ⟨⟨own, state⟩, found, rfl⟩ := Option.map_eq_some_iff.mp held
  obtain rfl : own = ticket := by simpa only [beq_iff_eq] using List.find?_some found
  obtain ⟨first, rest, split⟩ := List.append_of_mem (List.mem_of_find?_eq_some found)
  have unique := wired.requests_nodup
  rw [split, List.map_append, List.map_cons, List.nodup_append] at unique
  obtain ⟨_, tail, apart⟩ := unique
  have kept (part : List Request) (others : ∀ other ∈ part, other.ticket ≠ own) :
      part.map (fun other => if other.ticket = own then { other with state := after } else other) =
        part := by
    conv => rhs; rw [← List.map_id part]
    exact List.map_congr_left fun other member => if_neg (others other member)
  have early := kept first fun other member =>
    apart _ (List.mem_map_of_mem member) _ List.mem_cons_self
  have late := kept rest fun other member same =>
    (List.nodup_cons.mp tail).1 (List.mem_map.mpr ⟨other, member, same⟩)
  unfold updateRequest
  simp only [split, List.map_append, List.map_cons, early, late, ↓reduceIte, List.countP_append,
    List.countP_cons]
  omega

theorem countP_unfetched {effects : List Effect} {counts : Effect → Bool}
    (fetches : ∀ effect, counts effect = true → effect.isFetch = true)
    (apart : ∀ effect ∈ effects, effect.isFetch = false) : effects.countP counts = 0 := by
  rw [List.countP_eq_zero]
  intro effect member counted
  cases (fetches effect counted).symm.trans (apart effect member)

private theorem isFetchWarning_fetchWarning (uri : String) (fault : Fault) :
    (fetchWarning uri fault).isFetchWarning = true := by
  simp [fetchWarning, Effect.isFetchWarning]

/-- A request that moves on brings about one warning if it fails, and none otherwise. -/
theorem Progresses.warns {ticket : Ticket} {state : RequestState}
    (progresses : session.Progresses event ticket state) (fault : Fault) :
    ∃ held, session.requestState? ticket = some held ∧
      (fetchEffects ticket fault state).countP Effect.isFetchWarning +
          (if Request.hasFailed ⟨ticket, held⟩ then 1 else 0) =
        if Request.hasFailed ⟨ticket, state⟩ then 1 else 0 := by
  cases progresses with
  | sent before => exact ⟨_, before, rfl⟩
  | answered reply before => exact ⟨_, before, rfl⟩
  | settled reply due =>
    have said : (fetchEffects ticket fault (.settled (outcomeOf reply))).countP Effect.isFetchWarning =
        if Request.hasFailed ⟨ticket, .settled (outcomeOf reply)⟩ then 1 else 0 := by
      cases outcomeOf reply with
      | failed => exact List.countP_singleton.trans (if_pos (isFetchWarning_fetchWarning ticket.uri fault))
      | settings settings => rfl
      | fault fault => rfl
      | cancelled => rfl
    rcases due with before | ⟨before, _⟩ <;> exact ⟨_, before, said⟩

/-- A request that moves on asks the client only if it had not begun before. -/
theorem Progresses.asks {ticket : Ticket} {state : RequestState}
    (progresses : session.Progresses event ticket state) (fault : Fault) (uri : String) :
    ∃ held, session.requestState? ticket = some held ∧
      (fetchEffects ticket fault state).countP (·.asksFor uri) +
          (if Request.hasBegun uri ⟨ticket, held⟩ then 1 else 0) ≤
        if Request.hasBegun uri ⟨ticket, state⟩ then 1 else 0 := by
  cases progresses with
  | sent before =>
    refine ⟨_, before, ?_⟩
    simp [fetchEffects, Effect.asksFor, Request.hasBegun, List.countP_singleton]
  | answered reply before =>
    refine ⟨_, before, ?_⟩
    simp [fetchEffects, Request.hasBegun]
  | settled reply due =>
    have silent : (fetchEffects ticket fault (.settled (outcomeOf reply))).countP (·.asksFor uri) = 0 := by
      cases outcomeOf reply <;> rfl
    rw [silent]
    rcases due with before | ⟨before, _⟩
    · refine ⟨_, before, ?_⟩
      simp [Request.hasBegun]
    · refine ⟨_, before, ?_⟩
      simp [Request.hasBegun]

/-- The warnings are as many as the requests that have failed. -/
theorem Requested.warned (requested : session.Requested event later) (wired : session.Wired)
    (tallied : session.outbox.countP Effect.isFetchWarning = session.requests.countP Request.hasFailed) :
    later.outbox.countP Effect.isFetchWarning = later.requests.countP Request.hasFailed := by
  cases requested with
  | same requests effects grown apart =>
    rw [grown, requests, List.countP_append,
      countP_unfetched (fun _ => Effect.isFetch_of_isFetchWarning) apart, Nat.add_zero, tallied]
  | asked uri requests silent =>
    rw [requests, silent, tallied, requests_askFor, List.countP_append]
    rfl
  | moved ticket state progresses requests fault grown =>
    obtain ⟨held, before, said⟩ := progresses.warns fault
    have counted := countP_updateRequest wired before state Request.hasFailed
    rw [grown, requests, List.countP_append]
    omega

/-- For a document the client is asked no more often than requests have begun. -/
theorem Requested.begun (requested : session.Requested event later) (wired : session.Wired)
    (bounded : session.outbox.countP (·.asksFor uri) ≤ session.requests.countP (·.hasBegun uri)) :
    later.outbox.countP (·.asksFor uri) ≤ later.requests.countP (·.hasBegun uri) := by
  cases requested with
  | same requests effects grown apart =>
    rw [grown, requests, List.countP_append,
      countP_unfetched (fun _ => Effect.isFetch_of_asksFor) apart]
    exact bounded
  | asked uri requests silent =>
    rw [requests, silent, requests_askFor, List.countP_append]
    exact Nat.le_add_right_of_le bounded
  | moved ticket state progresses requests fault grown =>
    obtain ⟨held, before, said⟩ := progresses.asks fault uri
    have counted := countP_updateRequest wired before state (·.hasBegun uri)
    rw [grown, requests, List.countP_append]
    omega

/-- What is said about fetching agrees with the requests. -/
structure Tallied (session : Session) (uri : String) : Prop where
  warned : session.outbox.countP Effect.isFetchWarning = session.requests.countP Request.hasFailed
  begun : session.outbox.countP (·.asksFor uri) ≤ session.requests.countP (·.hasBegun uri)

private theorem Tallied.step (tallied : session.Tallied uri) (wired : session.Wired) (event : Event) :
    (session.step event).Tallied uri := by
  obtain ⟨middle, change, moves⟩ := wired.change_step event
  have unchanged : middle.Tallied uri := by
    constructor <;> rw [change.requests, change.outbox]
    · exact tallied.warned
    · exact tallied.begun
  exact (wired.change change).keep moves (Tallied · uri) unchanged fun wired move held =>
    ⟨(move.requested wired).warned wired held.warned, (move.requested wired).begun wired held.begun⟩

end Tally

section Generations

variable {session : Session} {event : Event} {uri : String} {request : Ticket}

theorem Undisturbed.tail {rest : List Event} (undisturbed : session.Undisturbed uri (event :: rest)) :
    ¬ session.Invalidates event uri ∧ (session.step event).Undisturbed uri rest := by
  refine ⟨undisturbed [] event rest rfl, ?_⟩
  rintro first last remaining rfl
  exact undisturbed (event :: first) last remaining rfl

end Generations

section Sharing

variable {session : Session} {request : Ticket} {task : Task}

end Sharing

private theorem Tallied.runAll {start : Session} (wired : start.Wired) (blank : start.requests = [])
    (silent : start.outbox = []) (events : List Event) (uri : String) :
    (start.runAll events).Tallied uri :=
  runAll_induction wired (Tallied · uri) (by constructor <;> simp [blank, silent]) events
    fun _ event _ wired tallied => tallied.step wired event

end Session

end HazeServer
