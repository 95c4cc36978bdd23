import HazeServer.Proofs.Revalidation
import HazeServer.Proofs.Session.Reconfiguration
import Mathlib.Data.List.Induction

/-! # Pushes and pulls agree

A pull looks up the document and its settings anew, some time after the last push has done so. The two
agree because a push that waits does so for the entry of its document: whatever takes the entry away,
short of a failure, also schedules a new push or closes the document. So the settings that the last
push has used are still those that a pull finds.
-/

namespace HazeServer

/-- Whether an event reaches past the protocol to what pushes and pulls draw on. -/
def Event.bypasses : Event → Bool
  | .evict _ | .addHook _ .eviction => true
  | event => event.interferes

theorem Event.interferes_of_bypasses {event : Event} (proper : event.bypasses = false) :
    event.interferes = false := by
  cases event <;> first | exact proper | rfl

namespace Session

/-- What holds after the handshake with a client, as long as nobody bypasses the protocol. -/
structure Serving (session : Session) : Prop where
  known : session.client.isSome
  cached : session.cache.isSome
  plugins : session.hasPlugins = true
  retains : ∀ notice, .eviction ∈ session.hooks.of notice → notice = .closed

/-- Nothing has failed for a document: no request for its settings, no validation of it, and no attempt
to refresh. -/
structure Unfailed (session : Session) (uri : String) : Prop where
  replied : ∀ request outcome, request.uri = uri → session.outcome? request = some outcome →
    outcome ≠ .failed ∧ outcome ≠ .cancelled
  validated : ∀ fault, validationFailure uri fault ∉ session.outbox
  refreshed : ∀ fault, refreshFailure validatorName fault ∉ session.outbox

/-- A push for a document that waits and was not cancelled does so for the entry of the document. -/
def Tied (session : Session) (uri : String) : Prop :=
  ∀ task ∈ session.tasks, task.uri = uri → task.purpose = .push → task.cancelled = false →
    ∀ request subject version, task.stage = .waiting request subject version →
      session.entryOf uri = some request

/-- A request for the settings of a document has failed. -/
def FailedFor (session : Session) (uri : String) : Prop :=
  ∃ request, request.uri = uri ∧ session.outcome? request = some .failed

/-- Settings that a look-up for a document finds without having to wait. -/
inductive Knows (session : Session) (uri : String) (settings : Settings) : Prop where
  | asked (request : Ticket) (entry : session.entryOf uri = some request)
      (settled : session.outcome? request = some (.settings settings))
  | shared (timeout : Nat) (silent : session.asksClient = false)
      (terms : session.terms? = some (settings, timeout))

section Serving

variable {session later : Session} {event : Event} {uri : String}

theorem mem_of_hooks_add {hooks : Hooks} {hook other : Hook} {notice named : DocumentEvent}
    (member : hook ∈ (hooks.add other named).of notice) :
    hook ∈ hooks.of notice ∨ (hook = other ∧ notice = named) := by
  cases notice <;> cases named <;> simp_all [Hooks.of, Hooks.add]

theorem Serving.change (serving : session.Serving) (change : session.Change event later)
    (proper : event.bypasses = false) : later.Serving := by
  have client := change.client serving.known
  refine ⟨client ▸ serving.known, change.cached serving.cached, ?_, ?_⟩
  · cases change.rearranges <;> exact serving.plugins
  · cases change.rearranges with
    | greeted client store first =>
      have known := serving.known
      rw [first] at known
      cases known
    | hooked named hook =>
      intro notice member
      rcases mem_of_hooks_add member with held | ⟨rfl, _⟩
      · exact serving.retains notice held
      · cases proper
    | _ => exact serving.retains

theorem Serving.move (serving : session.Serving) (move : Move event uri session later) :
    later.Serving := by
  have ground := move.sameGround
  refine ⟨ground.client ▸ serving.known, ?_, ground.hasPlugins ▸ serving.plugins,
    ground.hooks ▸ serving.retains⟩
  rw [← isSome_terms?, move.terms, isSome_terms?]
  exact serving.cached

private theorem Serving.step (serving : session.Serving) (wired : session.Wired)
    (proper : event.bypasses = false) : (session.step event).Serving := by
  obtain ⟨middle, change, moves⟩ := wired.change_step event
  exact moves.keep (serving.change change proper) fun move held => held.move move

/-- As long as nobody bypasses the protocol, the entry of a document is evicted only when it is
closed. -/
theorem Serving.evicts (serving : session.Serving) (proper : event.bypasses = false)
    (stays : event.closes uri = false) : ¬ session.CallsForEviction event uri := by
  rintro (rfl | ⟨notice, notified, hooked⟩)
  · cases proper
  · cases serving.retains notice hooked
    rw [Event.eq_of_notifies_closed notified] at stays
    simp [Event.closes] at stays

/-- A change of the configuration is handled, or changes nothing. -/
theorem Serving.configure (serving : session.Serving) (payload : Json) :
    (session.configure payload).1 = .nothing ∨ session.step (.configured payload) = session := by
  change _ ∨ (session.configure payload).2 = session
  have configures := session.configures payload
  generalize session.configure payload = result at configures ⊢
  cases configures with
  | early => exact .inl rfl
  | refused => exact .inr rfl
  | taken => exact .inl rfl
  | lacking _ _ lacks => cases lacks.symm.trans serving.plugins

end Serving

section Unfailing

variable {session : Session} {event : Event} {uri : String}

theorem Unfailed.before (unfailed : (session.step event).Unfailed uri) (wired : session.Wired) :
    session.Unfailed uri := by
  have grown := wired.outbox_step event
  refine ⟨fun request outcome here settled => ?_, fun fault member => ?_, fun fault member => ?_⟩
  · exact unfailed.replied request outcome here (wired.outcome_step event settled)
  · exact unfailed.validated fault (grown ▸ List.mem_append_left _ member)
  · exact unfailed.refreshed fault (grown ▸ List.mem_append_left _ member)

/-- A change of the configuration that is not refused is handled without failure. -/
theorem Unfailed.handled {payload : Json} (unfailed : (session.step (.configured payload)).Unfailed uri)
    (wired : session.Wired) (serving : session.Serving)
    (answer : (session.configure payload).1 = .nothing) : session.Handled payload := by
  refine ⟨serving.cached, answer, fun fault member => unfailed.refreshed fault ?_⟩
  rw [wired.outbox_step]
  exact List.mem_append_right _ member

end Unfailing

section Tying

variable {session later : Session} {event : Event} {uri : String}

private theorem OpenFor.tied (stands : session.OpenFor uri) (absent : session.store.get? uri = none) :
    session.Tied uri := by
  intro task member here push live request subject version waits
  have stored := stands task member here push live (by rw [waits]; simp)
  rw [absent] at stored
  cases stored

private theorem UnbegunFor.tied (unbegun : session.UnbegunFor uri) : session.Tied uri := by
  intro task member here push live request subject version waits
  rw [unbegun task member here push live] at waits
  cases waits

theorem FailedFor.move {about : String} (failed : session.FailedFor uri) (wired : session.Wired)
    (move : Move event about session later) : later.FailedFor uri := by
  obtain ⟨request, here, failed⟩ := failed
  exact ⟨request, here, (move.requested wired).outcome failed⟩

/-- A move keeps pushes tied to the entry of their document, unless it takes the entry away. -/
theorem Tied.move {about : String} (tied : session.Tied uri) (wired : session.Wired)
    (move : Move event about session later) (stays : ¬ session.CallsForEviction event uri) :
    later.FailedFor uri ∨ later.Tied uri := by
  by_cases failed : session.EntryLedTo uri .failed
  · obtain ⟨cache, request, present, listed, failed⟩ := failed
    have here := (wired.entries_asked cache uri request present listed).1
    exact .inl (FailedFor.move ⟨request, here, failed⟩ wired move)
  right
  intro task member here push live request subject version waits
  have entry : session.entryOf uri = some request := by
    cases move.origin wired member with
    | kept _ held => exact tied task held here push live request subject version waits
    | cancelled => cases live
    | waits held awaited seen _ place _ _ _ _ asks entry =>
      cases waits
      have named : about = uri := place.symm.trans here
      unfold entryOf
      rw [if_pos asks, ← named, entry]
    | asked => cases waits
    | scheduled => cases waits
  obtain ⟨asks, cache, present, listed⟩ := entryOf_eq_some.mp entry
  rcases move.entry present listed with ⟨kept, cached, held⟩ | ⟨_, evicts | ⟨_, led⟩⟩
  · refine entryOf_eq_some.mpr ⟨?_, kept, cached, held⟩
    unfold asksClient
    rw [move.sameGround.client]
    exact asks
  · exact absurd evicts stays
  · exact absurd led failed

private theorem Tied.change (tied : session.Tied uri) (change : session.Change event later)
    (calm : ∀ payload, event ≠ .configured payload) : later.Tied uri := by
  intro task member here push live request subject version waits
  have same : later.entryOf uri = session.entryOf uri := by
    rcases change.entries uri with same | ⟨_, payload, configured⟩
    · exact same
    · exact absurd configured (calm payload)
  rw [same]
  rcases change.task member with ⟨held, _⟩ | ⟨document, held, old, _, _, rfl⟩
  · exact tied task held here push live request subject version waits
  · obtain ⟨about, waited⟩ := withdraw_eq_waiting waits
    exact tied held old here push live request about version waited

/-- What takes an entry away also takes the place of the pushes that wait for it. -/
theorem Tied.step {rule : Rule} (tied : session.Tied uri) (wired : session.Wired)
    (orderly : Orderly rule session) (serving : session.Serving)
    (stands : (session.step event).OpenFor uri) (unfailed : (session.step event).Unfailed uri)
    (proper : event.bypasses = false) : (session.step event).Tied uri := by
  by_cases configured : ∃ payload, event = .configured payload
  · obtain ⟨payload, rfl⟩ := configured
    rcases serving.configure payload with answer | same
    · have handled := unfailed.handled wired serving answer
      cases stored : session.store.get? uri with
      | none => exact stands.tied (handled.store ▸ stored)
      | some document => exact (handled.pushes wired (by rw [stored]; rfl)).1.tied
    · rw [same]
      exact tied
  · have calm : ∀ payload, event ≠ .configured payload := fun payload same => configured ⟨payload, same⟩
    cases closes : event.closes uri with
    | true =>
      cases orderly.told_step wired (Event.interferes_of_bypasses proper) uri with
      | closed _ _ _ absent => exact stands.tied absent
      | schedule _ _ _ stays => cases closes.symm.trans stays
      | nothing kept => cases closes.symm.trans (Bool.or_eq_false_iff.mp kept).2
    | false =>
      obtain ⟨middle, change, moves⟩ := wired.change_step event
      -- what has failed stays failed, so it is enough to look for a failure at the end
      have kept := (wired.change change).keep moves
        (fun later => later.Serving ∧ (later.FailedFor uri ∨ later.Tied uri))
        ⟨serving.change change proper, .inr (tied.change change calm)⟩
        fun wired move held => by
          obtain ⟨serving, failed | tied⟩ := held
          · exact ⟨serving.move move, .inl (failed.move wired move)⟩
          · exact ⟨serving.move move, tied.move wired move (serving.evicts proper closes)⟩
      rcases kept.2 with ⟨request, here, failed⟩ | tied
      · exact absurd rfl (unfailed.replied request .failed here failed).1
      · exact tied

end Tying

section Knowing

variable {session later : Session} {event : Event} {uri : String} {settings : Settings}

private theorem Knows.congr (knows : session.Knows uri settings) (client : later.client = session.client)
    (cache : later.cache = session.cache) (requests : later.requests = session.requests) :
    later.Knows uri settings := by
  cases knows with
  | asked request entry settled =>
    refine .asked request ((entryOf_congr client cache uri).trans entry) ?_
    rw [outcome?_of_requests requests]
    exact settled
  | shared timeout silent terms =>
    refine .shared timeout ?_ ((terms?_of_cache cache).trans terms)
    unfold asksClient
    rw [client]
    exact silent

private theorem Knows.lookUp (knows : session.Knows uri settings) :
    session.lookUp uri = (.found settings, session) := by
  cases knows with
  | asked request entry settled => exact session.lookUp_of_settled entry settled
  | shared timeout silent terms =>
    obtain ⟨cache, present, same⟩ := Option.map_eq_some_iff.mp terms
    rw [session.lookUp_of_shared present silent, ← (Prod.mk.inj same).1]

/-- Settings that are known stay known until they are forgotten. -/
theorem Knows.step (knows : session.Knows uri settings) (wired : session.Wired)
    (serving : session.Serving) (keeps : ¬ session.Forgets event uri) :
    (session.step event).Knows uri settings := by
  cases knows with
  | asked request entry settled =>
    rcases wired.entry_step entry with kept | ⟨_, forgets | ⟨failed, _⟩⟩
    · exact .asked request kept (wired.outcome_step event settled)
    · exact absurd forgets keeps
    · cases settled.symm.trans failed
  | shared timeout silent terms =>
    obtain ⟨middle, change, moves⟩ := wired.change_step event
    have calm (payload : Json) (same : event = .configured payload) : False :=
      keeps (.inl ⟨payload, same⟩)
    refine .shared timeout ?_ ?_
    · unfold asksClient
      rw [wired.client_step event serving.known]
      exact silent
    · rw [moves.terms, terms?_of_cache (change.cache serving.known calm).1]
      exact terms

/-- What a push learns from is the entry of its document. -/
theorem Tied.source {task : Task} (tied : session.Tied task.uri) (push : task.purpose = .push)
    (live : task.cancelled = false) {request : Ticket}
    (source : session.entryOf task.uri = some request ∨ session.Caller request task) :
    session.entryOf task.uri = some request := by
  rcases source with entry | caller
  · exact entry
  · obtain ⟨subject, version, waits⟩ := waitsFor_iff.mp caller.waits
    exact tied task caller.member rfl push live request subject version waits

/-- The last publication for a document holds what the rule finds in it under the settings that a
look-up finds. -/
def Mirrors (session : Session) (rule : Rule) (uri : String) (document : Document) : Prop :=
  ∃ settings diagnostics, session.Knows uri settings ∧
    (rule.validate (showsRelated session.client) settings.problemLimit document).result =
      .ok diagnostics ∧
    (publicationsFor uri session.outbox).getLast? = some ⟨uri, document.version, diagnostics⟩

/-- A push finds settings that a look-up finds, or fails. -/
theorem Validates.knows {lookup : Lookup} (validates : session.Validates uri event lookup)
    (wired : session.Wired) (serving : session.Serving) (tied : session.Tied uri)
    (unfailed : session.Unfailed uri) :
    (∃ settings, lookup = .found settings ∧ session.Knows uri settings) ∨
      ∃ fault, lookup = .fault fault := by
  obtain ⟨job, turn, after, rfl, ready, takes, push, rfl, rfl, settled⟩ := validates
  have drawn := takes.drawn settled
  generalize turn.lookup = lookup at drawn
  cases drawn with
  | early absent =>
    have cached := serving.cached
    rw [absent] at cached
    cases cached
  | shared cache present silent =>
    refine .inl ⟨cache.global, rfl, .shared cache.timeout silent ?_⟩
    rw [terms?, present]
    rfl
  | learned request outcome source known =>
    have entry := tied.source push takes.found.2.1 source
    have replied := unfailed.replied request outcome (wired.entry_asked entry).1 known
    cases outcome with
    | settings given => exact .inl ⟨given, rfl, .asked request entry known⟩
    | failed => exact absurd rfl replied.1
    | fault fault => exact .inr ⟨fault, rfl⟩
    | cancelled => exact absurd rfl replied.2

/-- After a push was validated, the last publication is what a pull would report. -/
theorem Validates.mirrors {rule : Rule} {lookup : Lookup}
    (validates : session.Validates uri event lookup) (wired : session.Wired)
    (orderly : Orderly rule session) (current : session.CurrentFor uri) (serving : session.Serving)
    (tied : session.Tied uri) (unfailed : (session.step event).Unfailed uri) {document : Document}
    (held : session.store.get? uri = some document) :
    (session.step event).Mirrors rule uri document := by
  have grown := wired.outbox_step event
  rw [validates.emitted wired orderly current held] at grown
  have silent (fault : Fault) :
      validationFailure uri fault ∉ verdict rule session.client uri document lookup :=
    fun member => unfailed.validated fault (grown ▸ List.mem_append_right _ member)
  rcases validates.knows wired serving tied (unfailed.before wired) with
    ⟨settings, rfl, knows⟩ | ⟨fault, rfl⟩
  · have keeps : ¬ session.Forgets event uri := by
      obtain ⟨job, _, _, rfl, _⟩ := validates
      rintro (⟨payload, same⟩ | same | ⟨notice, notified, _⟩)
      · cases same
      · cases same
      · cases notified
    have same := wired.client_step event serving.known
    simp only [verdict] at grown silent
    cases result : (rule.validate (showsRelated session.client) settings.problemLimit document).result with
    | error fault =>
      rw [result] at silent
      exact absurd (List.mem_singleton.mpr rfl) (silent fault)
    | ok diagnostics =>
      rw [result] at grown
      refine ⟨settings, diagnostics, knows.step wired serving keeps, same ▸ result, ?_⟩
      rw [grown, publicationsFor_append]
      simp [publicationsFor]
  · exact absurd (List.mem_singleton.mpr rfl) (silent fault)

end Knowing

/-- What the last publication for a document has to do with the session: that of a closed one is the
empty notice, and that of an open one mirrors it unless a push is still pending. -/
def Agrees (session : Session) (rule : Rule) (uri : String) : Prop :=
  match session.store.get? uri with
  | none => (publicationsFor uri session.outbox).getLast? = some (closeNotice uri)
  | some document => session.PushPending uri ∨ session.Mirrors rule uri document

/-- What keeps pushes and pulls for a document in agreement. -/
structure Attuned (rule : Rule) (uri : String) (session : Session) : Prop where
  orderly : Orderly rule session
  current : session.CurrentFor uri
  stands : session.OpenFor uri
  serving : session.Serving
  tied : session.Unfailed uri → session.Tied uri

section Agreeing

variable {rule : Rule} {session : Session} {event : Event} {uri : String}

private theorem Attuned.greeted (rule : Rule) (client : ClientProfile) (uri : String) :
    Attuned rule uri ((fresh rule true).step (.handshake client)) := by
  have wired := Wired.fresh rule true
  have orderly := Orderly.fresh rule true
  have current : (fresh rule true).CurrentFor uri := fun task member => by cases member
  have stands : (fresh rule true).OpenFor uri := fun task member => by cases member
  refine ⟨orderly.step wired rfl, current.step wired orderly rfl,
    stands.step wired (.fresh rule true) _, ⟨rfl, rfl, rfl, fun notice member => ?_⟩,
    fun _ task member => by cases member⟩
  rcases mem_of_hooks_add member with held | ⟨_, same⟩
  · cases notice <;> simp [fresh, Hooks.of, Hooks.withValidator, Hooks.add] at held
  · exact same

private theorem Attuned.step (attuned : Attuned rule uri session) (wired : session.Wired)
    (proper : event.bypasses = false) : Attuned rule uri (session.step event) := by
  have calm := Event.interferes_of_bypasses proper
  have stands := attuned.stands.step wired attuned.orderly.told event
  refine ⟨attuned.orderly.step wired calm, attuned.current.step wired attuned.orderly calm, stands,
    attuned.serving.step wired proper, fun unfailed => ?_⟩
  exact (attuned.tied (unfailed.before wired)).step wired attuned.orderly attuned.serving stands unfailed
    proper

private theorem Mirrors.step {document : Document} (mirrors : session.Mirrors rule uri document)
    (wired : session.Wired) (serving : session.Serving) (keeps : ¬ session.Forgets event uri)
    (quiet : publicationsFor uri (session.step event).outbox = publicationsFor uri session.outbox) :
    (session.step event).Mirrors rule uri document := by
  obtain ⟨settings, diagnostics, knows, valid, last⟩ := mirrors
  refine ⟨settings, diagnostics, knows.step wired serving keeps, ?_, quiet ▸ last⟩
  rw [wired.client_step event serving.known]
  exact valid

/-- One more event leaves the last publication in agreement with the session. -/
theorem Attuned.agrees_step (attuned : Attuned rule uri session) (wired : session.Wired)
    (unfailed : (session.step event).Unfailed uri) (proper : event.bypasses = false)
    (agrees : event.renews uri = false → session.Agrees rule uri) :
    (session.step event).Agrees rule uri := by
  have tied := attuned.tied (unfailed.before wired)
  unfold Agrees
  cases attuned.orderly.attended wired (Event.interferes_of_bypasses proper) uri with
  | closed absent _ last =>
    rw [absent]
    exact last
  | pending stored pending =>
    obtain ⟨document, stored⟩ := Option.isSome_iff_exists.mp stored
    rw [stored]
    exact .inl pending
  | validated _ same document held lookup validates =>
    rw [same, held]
    exact .inr (validates.mirrors wired attuned.orderly attuned.current attuned.serving tied unfailed
      held)
  | idle kept same unpushed quiet =>
    have before := agrees kept
    unfold Agrees at before
    rw [same]
    cases stored : session.store.get? uri with
    | none =>
      rw [stored] at before
      change (publicationsFor uri (session.step event).outbox).getLast? = _
      rw [quiet]
      exact before
    | some document =>
      rw [stored] at before
      have present : (session.store.get? uri).isSome := by rw [stored]; rfl
      have mirrors := before.resolve_left (unpushed present)
      -- only a change of the configuration takes the settings away, and it leaves a push pending
      by_cases configured : ∃ payload, event = .configured payload
      · obtain ⟨payload, rfl⟩ := configured
        rcases attuned.serving.configure payload with answer | refused
        · exact .inl ((unfailed.handled wired attuned.serving answer).pushes wired present).2
        · rw [refused]
          exact .inr mirrors
      · refine .inr (mirrors.step wired attuned.serving ?_ quiet)
        rintro (held | evicts)
        · exact configured held
        · have stays : event.closes uri = false := (Bool.or_eq_false_iff.mp kept).2
          exact attuned.serving.evicts proper stays evicts

theorem Attuned.runAll (attuned : Attuned rule uri session) (wired : session.Wired)
    {events : List Event} (proper : ∀ event ∈ events, event.bypasses = false) :
    Attuned rule uri (session.runAll events) :=
  runAll_induction wired (Attuned rule uri) attuned events fun _ event member wired held =>
    held.step wired (proper event member)

/-- Once a document was opened or closed, its last publication stays in agreement with the session. -/
theorem Attuned.agrees_runAll (attuned : Attuned rule uri session) (wired : session.Wired)
    (events : List Event) (proper : ∀ event ∈ events, event.bypasses = false)
    (unfailed : (session.runAll events).Unfailed uri)
    (touched : ∃ event ∈ events, event.renews uri = true) :
    (session.runAll events).Agrees rule uri := by
  induction events using List.reverseRecOn with
  | nil =>
    obtain ⟨event, member, _⟩ := touched
    cases member
  | append_singleton events event step =>
    have early : ∀ event ∈ events, event.bypasses = false :=
      fun event member => proper event (List.mem_append_left _ member)
    have last := proper event (List.mem_append_right _ (List.mem_singleton.mpr rfl))
    rw [runAll_concat] at unfailed ⊢
    refine (attuned.runAll wired early).agrees_step (wired.runAll events) unfailed last fun kept => ?_
    refine step early (unfailed.before (wired.runAll events)) ?_
    obtain ⟨other, member, renewed⟩ := touched
    rcases List.mem_append.mp member with before | final
    · exact ⟨other, before, renewed⟩
    · cases List.mem_singleton.mp final
      rw [kept] at renewed
      cases renewed

end Agreeing

section Pulling

variable {session : Session} {uri : String} {id : RequestId}

private theorem settleFor_idle (count : Nat) (idle : session.ready = []) :
    settleFor count session = session := by
  have none : session.next? = none := by
    unfold next?
    rw [idle]
    rfl
  cases count with
  | zero => rfl
  | succ count => simp only [settleFor, none]

/-- Where one job is all there is to do, and leads to no other, it is all that happens. -/
theorem settle_of_single {job : Job} (single : session.ready = [job])
    (idle : (session.run job).ready = []) : session.settle = session.run job := by
  have next : session.next? = some job := by
    unfold next?
    rw [single]
    cases delivers : job.isDelivery <;> simp [delivers]
  unfold settle
  rw [single, List.length_singleton, Nat.add_comm]
  simp only [settleFor, next]
  exact settleFor_idle _ idle

private theorem runStart_of_new {ticket : Ticket} {task : Task} (found : session.task? ticket = some task)
    (new : task.stage = .created) (live : task.cancelled = false) :
    session.runStart ticket = session.beginTask task := by
  unfold runStart
  simp only [found, new, live, Bool.false_eq_true, ↓reduceIte]

theorem ready_endTask_pull {task : Task} (purpose : task.purpose = .pull id) :
    (session.endTask task).ready = session.ready := by
  simp only [endTask, purpose]

/-- A pull for a document that is not open reports nothing at its first turn. -/
theorem beginTask_pull_closed {task : Task} (purpose : task.purpose = .pull id)
    (plugins : session.hasPlugins = true) (absent : session.store.get? task.uri = none) :
    (session.beginTask task).outbox = session.outbox ++ [.respond task.uri id (.report [])] ∧
      (session.beginTask task).ready = session.ready := by
  have begins : session.beginTask task = session.endEmpty task := by
    simp only [beginTask, purpose, lacksPlugins, plugins, absent, Bool.not_true, Bool.false_eq_true,
      ↓reduceIte]
  rw [begins]
  unfold endEmpty
  rw [outbox_endTask, outbox_answer, ready_endTask_pull purpose, answer_eq_emitAll]
  refine ⟨?_, rfl⟩
  simp [answerEffects, purpose, Purpose.requestId?, emptyResponse]

/-- A pull that finds settings for an open document reports at its first turn. -/
theorem beginTask_pull_open {task : Task} {document : Document} {settings : Settings}
    {diagnostics : List Diagnostic} (purpose : task.purpose = .pull id)
    (plugins : session.hasPlugins = true) (stored : session.store.get? task.uri = some document)
    (knows : session.Knows task.uri settings)
    (valid : (session.rule.validate (showsRelated session.client) settings.problemLimit
      document).result = .ok diagnostics) :
    (session.beginTask task).outbox = session.outbox ++ [.respond task.uri id (.report diagnostics)] ∧
      (session.beginTask task).ready = session.ready := by
  have begins : session.beginTask task =
      session.proceed task .stored document.version (.found settings) := by
    simp only [beginTask, purpose, lacksPlugins, plugins, stored, Bool.not_true, Bool.false_eq_true,
      ↓reduceIte, consult, knows.lookUp]
  rw [begins]
  constructor
  · rw [outbox_proceed]
    simp only [turnEffects, purpose, subjectDocument, stored, resultEffects, valid, pullEffects]
  · simp only [proceed, purpose]
    rw [ready_endTask_pull purpose, validateWith_frame]

/-- In a session with nothing else to do, a pull that reports at its first turn is answered so. -/
theorem settle_pull {items : List Diagnostic} (idle : session.ready = []) (done : session.tasks = [])
    (begins : ∀ taken task, session.SameGround taken → taken.cache = session.cache →
      taken.requests = session.requests → task.purpose = .pull id → task.uri = uri →
      (taken.beginTask task).outbox = taken.outbox ++ [.respond uri id (.report items)] ∧
        (taken.beginTask task).ready = taken.ready) :
    (session.step (.ask uri (.pull id))).settle.outbox =
      session.outbox ++ [.respond uri id (.report items)] := by
  have single : (session.step (.ask uri (.pull id))).ready = [.start (session.nextTicket uri)] := by
    change session.ready ++ _ = _
    rw [idle]
    rfl
  have found : (session.step (.ask uri (.pull id))).task? (session.nextTicket uri) =
      some ⟨session.nextTicket uri, .pull id, .created, false⟩ := by
    have fresh : session.task? (session.nextTicket uri) = none := by
      unfold task?
      rw [done]
      rfl
    change (session.startTask uri (.pull id)).2.task? (session.nextTicket uri) = _
    rw [task?_startTask, if_pos rfl, fresh, Option.none_or]
  have runs : (session.step (.ask uri (.pull id))).run (.start (session.nextTicket uri)) =
      ((session.step (.ask uri (.pull id))).taking (.start (session.nextTicket uri))).beginTask
        ⟨session.nextTicket uri, .pull id, .created, false⟩ := by
    rw [perform_taking _ (by rw [single]; simp)]
    exact runStart_of_new found rfl rfl
  obtain ⟨said, quiet⟩ := begins
    ((session.step (.ask uri (.pull id))).taking (.start (session.nextTicket uri)))
    ⟨session.nextTicket uri, .pull id, .created, false⟩ ⟨rfl, rfl, rfl, rfl, rfl⟩ rfl rfl rfl rfl
  have emptied : ((session.step (.ask uri (.pull id))).taking
      (.start (session.nextTicket uri))).ready = [] := by
    unfold taking
    rw [single]
    simp
  rw [settle_of_single single (by rw [runs, quiet, emptied]), runs, said]
  rfl

/-- A pull in a session with nothing else to do reports what was published last. -/
theorem Agrees.pull {rule : Rule} (agrees : session.Agrees rule uri) (ruled : session.rule = rule)
    (serving : session.Serving) (idle : session.ready = []) (done : session.tasks = [])
    (id : RequestId) :
    ∃ publication, (publicationsFor uri session.outbox).getLast? = some publication ∧
      (session.step (.ask uri (.pull id))).settle.outbox =
        session.outbox ++ [.respond uri id (.report publication.diagnostics)] := by
  unfold Agrees at agrees
  cases stored : session.store.get? uri with
  | none =>
    rw [stored] at agrees
    refine ⟨closeNotice uri, agrees, settle_pull idle done ?_⟩
    rintro taken task ground _ _ purpose rfl
    exact beginTask_pull_closed purpose (ground.hasPlugins.trans serving.plugins)
      (by rw [ground.store]; exact stored)
  | some document =>
    rw [stored] at agrees
    have unpushed : ¬ session.PushPending uri := by
      rintro ⟨task, member, _⟩
      rw [done] at member
      cases member
    obtain ⟨settings, diagnostics, knows, valid, last⟩ := agrees.resolve_left unpushed
    refine ⟨⟨uri, document.version, diagnostics⟩, last, settle_pull idle done ?_⟩
    rintro taken task ground cache requests purpose rfl
    refine beginTask_pull_open purpose (ground.hasPlugins.trans serving.plugins)
      (by rw [ground.store]; exact stored) (knows.congr ground.client cache requests) ?_
    rw [ground.rule, ground.client, ruled]
    exact valid

end Pulling

/-- At every quiescent point of a run that begins with the handshake, if nothing has failed for a
document that was opened or closed, a pull for it reports what was published for it last. -/
theorem pull_reports_last_publication (rule : Rule) (client : ClientProfile) (events : List Event)
    (uri : String) (id : RequestId) (proper : ∀ event ∈ events, event.bypasses = false)
    (unfailed : ((fresh rule true).runAll (.handshake client :: events)).Unfailed uri)
    (touched : ∃ event ∈ events, event.renews uri = true)
    (quiescent : ((fresh rule true).runAll (.handshake client :: events)).Quiescent) :
    ∃ publication,
      (publicationsFor uri ((fresh rule true).runAll (.handshake client :: events)).outbox).getLast? =
        some publication ∧
      (((fresh rule true).runAll (.handshake client :: events)).step (.ask uri (.pull id))).settle.outbox =
        ((fresh rule true).runAll (.handshake client :: events)).outbox ++
          [.respond uri id (.report publication.diagnostics)] := by
  have start := Wired.fresh rule true
  have wired := start.step (.handshake client)
  have attuned := Attuned.greeted rule client uri
  have agrees := attuned.agrees_runAll wired events proper unfailed touched
  have kept := attuned.runAll wired proper
  have done := quiescent.no_task (start.runAll _) ((Prompt.fresh rule true).runAll start _)
  exact agrees.pull kept.orderly.rule_eq kept.serving quiescent.idle done id

/-- A document is validated with no problem allowed, and again after the configuration has changed. -/
def reconfiguredRun : List Event :=
  let uri := "file:///a.hz"
  [.opened uri "a" ⟨.int 6, rfl⟩ .null, .run (.start ⟨uri, 0⟩), .run (.send ⟨uri, 1⟩),
    .reply ⟨uri, 1⟩ (.result (.list [.object [(Settings.limitMember, .int 0)]])),
    .run (.deliver ⟨uri, 1⟩), .run (.resume ⟨uri, 0⟩), .run (.retire ⟨uri, 0⟩), .configured .null,
    .run (.start ⟨uri, 2⟩), .run (.send ⟨uri, 3⟩), .reply ⟨uri, 3⟩ (.result (.list [.null])),
    .run (.deliver ⟨uri, 3⟩), .run (.resume ⟨uri, 2⟩), .run (.retire ⟨uri, 2⟩)]

/-- The session after the run above. -/
def reconfigured : Session :=
  (fresh oneFinding true).runAll
    (.handshake { support := { configuration := true, refresh := true } } :: reconfiguredRun)

private theorem reconfigured_unfailed : reconfigured.Unfailed "file:///a.hz" := by
  have requests : reconfigured.requests =
      [⟨⟨"file:///a.hz", 1⟩, .settled (.settings { problemLimit := 0 })⟩,
        ⟨⟨"file:///a.hz", 3⟩, .settled (.settings {})⟩] := rfl
  have silent : ∀ text, .log .error text ∉ reconfigured.outbox := by
    intro text member
    change _ ∈ [Effect.log .info _, .askSettings _, .publish _, .askRefresh, .askSettings _,
      .publish _] at member
    simp at member
  refine ⟨?_, fun fault => silent _, fun fault => silent _⟩
  intro request outcome _ settled
  obtain ⟨made, found, given⟩ := Option.bind_eq_some_iff.mp settled
  have member := List.mem_of_find?_eq_some found
  rw [requests] at member
  simp only [List.mem_cons, List.not_mem_nil, or_false] at member
  rcases member with rfl | rfl <;> cases given <;> simp

/-- What was published last has one problem, and a pull reports it. -/
theorem reconfigured_pulls :
    (∀ event ∈ reconfiguredRun, event.bypasses = false) ∧ reconfigured.Unfailed "file:///a.hz" ∧
      (∃ event ∈ reconfiguredRun, event.renews "file:///a.hz" = true) ∧ reconfigured.Quiescent ∧
      ∃ publication,
        (publicationsFor "file:///a.hz" reconfigured.outbox).getLast? = some publication ∧
        publication.diagnostics.length = 1 ∧
        (reconfigured.step (.ask "file:///a.hz" (.pull (.number 1)))).settle.outbox =
          reconfigured.outbox ++
            [.respond "file:///a.hz" (.number 1) (.report publication.diagnostics)] := by
  have proper : ∀ event ∈ reconfiguredRun, event.bypasses = false := by
    simp [reconfiguredRun, Event.bypasses, Event.interferes]
  have touched : ∃ event ∈ reconfiguredRun, event.renews "file:///a.hz" = true :=
    ⟨_, List.mem_cons_self, rfl⟩
  have quiescent : reconfigured.Quiescent := ⟨rfl, rfl⟩
  obtain ⟨publication, last, pulled⟩ := pull_reports_last_publication oneFinding
    { support := { configuration := true, refresh := true } } reconfiguredRun "file:///a.hz" (.number 1)
    proper reconfigured_unfailed touched quiescent
  refine ⟨proper, reconfigured_unfailed, touched, quiescent, publication, last, ?_, pulled⟩
  cases last
  rfl

end Session

end HazeServer
