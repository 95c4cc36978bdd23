import HazeServer.Proofs.Negotiation
import HazeServer.Proofs.Session.Entries
import Mathlib.Data.List.Induction

/-! # The first handshake decides

A session serves one client. What its first handshake tells is kept for good: what the client supports,
how positions in documents are counted, that there is a settings cache, and that the cache forgets a
document that is closed. A later handshake is answered in the terms of the first, and all it leaves
behind is a warning.
-/

namespace HazeServer

/-- The client that introduces itself by an event. -/
def Event.greeter? : Event → Option ClientProfile
  | .handshake client => some client
  | _ => none

/-- The client that is the first to introduce itself in a run. -/
def firstClient? (events : List Event) : Option ClientProfile :=
  events.findSome? Event.greeter?

/-- Whether an event has closed documents forgotten once more, besides what the handshake does. -/
def Event.addsEviction : Event → Bool
  | .addHook .closed .eviction => true
  | _ => false

/-- Whether a hook makes the cache forget a document. -/
def Hook.isEviction : Hook → Bool
  | .eviction => true
  | _ => false

namespace Session

/-- What a session has from the first handshake of the events so far. -/
structure Introduced (session : Session) (events : List Event) : Prop where
  /-- The client is known by what it supported then. -/
  client : session.client = (firstClient? events).map (·.support)
  encoding : session.store.encoding = (firstClient? events).map (·.encoding)
  /-- There is a cache, as it was made then. -/
  timeout : session.cache.map (·.timeout) = (firstClient? events).map fun _ => ({} : Cache).timeout
  /-- Closed documents are forgotten by one hook, and by those that were added besides. -/
  evictions : session.hooks.closed.countP Hook.isEviction =
    (firstClient? events).toList.length + events.countP Event.addsEviction

section Steps

variable {session later : Session} {events : List Event} {event : Event}

theorem firstClient?_concat (events : List Event) (event : Event) :
    firstClient? (events ++ [event]) = (firstClient? events).or event.greeter? := by
  simp [firstClient?, List.findSome?_append]

/-- Only a handshake sets up the client, the encoding and the cache, and only it and the call for that
add a hook. -/
theorem Change.setUp (change : session.Change event later)
    (calm : ∀ client, event ≠ .handshake client) (unhooked : ∀ notice hook, event ≠ .addHook notice hook) :
    later.client = session.client ∧ later.store.encoding = session.store.encoding ∧
      later.cache.map (·.timeout) = session.cache.map (·.timeout) ∧ later.hooks = session.hooks := by
  cases change.rearranges with
  | greeted client => exact absurd rfl (calm client)
  | hooked notice hook => exact absurd rfl (unhooked notice hook)
  | nothing event store tasks ready encoding => exact ⟨rfl, encoding, rfl, rfl⟩
  | cleared =>
    refine ⟨rfl, rfl, ?_, rfl⟩
    exact Option.map_map ..
  | shared =>
    refine ⟨rfl, rfl, ?_, rfl⟩
    exact Option.map_map ..
  | _ => exact ⟨rfl, rfl, rfl, rfl⟩

private theorem timeout_of_terms (same : later.terms? = session.terms?) :
    later.cache.map (·.timeout) = session.cache.map (·.timeout) := by
  have timeouts := congrArg (Option.map Prod.snd) same
  simp only [terms?, Option.map_map] at timeouts
  exact timeouts

/-- Other events leave alone what the handshake has set up. -/
theorem Introduced.calm (introduced : session.Introduced events) (wired : session.Wired)
    (calm : ∀ client, event ≠ .handshake client) (unhooked : ∀ notice hook, event ≠ .addHook notice hook) :
    (session.step event).Introduced (events ++ [event]) := by
  obtain ⟨middle, change, moves⟩ := wired.change_step event
  obtain ⟨client, encoding, timeout, hooks⟩ := change.setUp calm unhooked
  have ground := moves.sameGround
  have ungreeted : event.greeter? = none := by
    cases event with
    | handshake client => exact absurd rfl (calm client)
    | _ => rfl
  have unadded : event.addsEviction = false := by
    cases event with
    | addHook notice hook => exact absurd rfl (unhooked notice hook)
    | _ => rfl
  have same : firstClient? (events ++ [event]) = firstClient? events := by
    rw [firstClient?_concat, ungreeted, Option.or_none]
  constructor
  · rw [same, ground.client, client]
    exact introduced.client
  · rw [same, ground.store, encoding]
    exact introduced.encoding
  · rw [same, timeout_of_terms moves.terms, timeout]
    exact introduced.timeout
  · rw [same, ground.hooks, hooks, List.countP_append, List.countP_singleton, unadded]
    exact introduced.evictions

private theorem Introduced.hooked (introduced : session.Introduced events) (notice : DocumentEvent)
    (hook : Hook) :
    (session.step (.addHook notice hook)).Introduced (events ++ [.addHook notice hook]) := by
  have same : firstClient? (events ++ [.addHook notice hook]) = firstClient? events := by
    rw [firstClient?_concat]
    exact Option.or_none
  refine ⟨same ▸ introduced.client, same ▸ introduced.encoding, same ▸ introduced.timeout, ?_⟩
  have held := introduced.evictions
  rw [same, List.countP_append, ← Nat.add_assoc, ← held]
  cases notice with
  | opened => rfl
  | changed => rfl
  | closed =>
    change (session.hooks.closed ++ [hook]).countP Hook.isEviction = _
    rw [List.countP_append]
    cases hook <;> rfl

/-- All that a later handshake does is warn. -/
theorem Introduced.warned (introduced : session.Introduced events) {first client : ClientProfile}
    (greeted : firstClient? events = some first) :
    session.step (.handshake client) = session.log .warning "Ignoring repeated initialize request" := by
  have known : session.client = some first.support := by
    rw [introduced.client, greeted]
    rfl
  change session.shakeHands client = _
  rw [shakeHands, known]

theorem Introduced.greeted (introduced : session.Introduced events) (client : ClientProfile) :
    (session.step (.handshake client)).Introduced (events ++ [.handshake client]) := by
  have counted : (events ++ [Event.handshake client]).countP Event.addsEviction =
      events.countP Event.addsEviction := by
    simp [Event.addsEviction]
  cases first : firstClient? events with
  | some greeter =>
    have same : firstClient? (events ++ [.handshake client]) = firstClient? events := by
      rw [firstClient?_concat, first, Option.some_or]
    rw [introduced.warned first]
    exact ⟨same ▸ introduced.client, same ▸ introduced.encoding, same ▸ introduced.timeout,
      by rw [same, counted]; exact introduced.evictions⟩
  | none =>
    have unknown : session.client = none := by rw [introduced.client, first]; rfl
    have now : firstClient? (events ++ [.handshake client]) = some client := by
      rw [firstClient?_concat, first, Option.none_or]
      rfl
    have held : session.hooks.closed.countP Hook.isEviction = events.countP Event.addsEviction := by
      rw [introduced.evictions, first]
      exact Nat.zero_add _
    have greeted : session.step (.handshake client) =
        { session with
          client := some client.support
          store := { session.store with encoding := some client.encoding }
          cache := some {}
          hooks := session.hooks.add .eviction .closed } := by
      change session.shakeHands client = _
      rw [shakeHands, unknown]
    rw [greeted]
    refine ⟨by rw [now]; rfl, by rw [now]; rfl, by rw [now]; rfl, ?_⟩
    change (session.hooks.closed ++ [Hook.eviction]).countP Hook.isEviction = _
    rw [List.countP_append, held, now, counted]
    exact Nat.add_comm _ 1

private theorem Introduced.step (introduced : session.Introduced events) (wired : session.Wired)
    (event : Event) :
    (session.step event).Introduced (events ++ [event]) := by
  cases event with
  | handshake client => exact introduced.greeted client
  | addHook notice hook => exact introduced.hooked notice hook
  | _ => exact introduced.calm wired (by simp) (by simp)

theorem introduced_runAll (rule : Rule) (hasPlugins : Bool) (events : List Event) :
    ((fresh rule hasPlugins).runAll events).Introduced events := by
  induction events using List.reverseRecOn with
  | nil => exact ⟨rfl, rfl, rfl, rfl⟩
  | append_singleton events event held =>
    rw [runAll_concat]
    exact held.step ((Wired.fresh rule hasPlugins).runAll events) event

end Steps

section Replies

variable {session : Session} {events : List Event}

/-- The answer to a handshake is negotiated with the client that was the first. -/
theorem Introduced.answer (introduced : session.Introduced events) (client : ClientProfile) :
    (session.handle (.handshake client)).1 =
      .announced ((ServerCapabilities.offered client.encoding).negotiate
        ((firstClient? events).getD client).support) := by
  have known : (session.step (.handshake client)).client =
      some ((firstClient? events).getD client).support := by
    rw [(introduced.greeted client).client, firstClient?_concat]
    cases firstClient? events <;> rfl
  change Answer.announced ((session.step (.handshake client)).announcement client) = _
  rw [announcement, known]
  rfl

end Replies

end Session

end HazeServer
