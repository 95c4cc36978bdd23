import HazeServer.Proofs.Handshake
import HazeServer.Proofs.Session.Upkeep
import HazeServer.Proofs.Table

/-! # The cache is about open documents

An entry of the settings cache is made by a task that validates a document, and such a task begins only
if the document is open. When the document is closed, the hook of the cache is called whatever the other
hooks do, and a task that goes on later makes no entry. So the cache never outlives the documents.
-/

namespace HazeServer

namespace Session

/-- Every entry of the cache is for a document that is open. -/
def Backed (session : Session) : Prop :=
  ∀ uri, (session.entryOf uri).isSome → (session.store.get? uri).isSome

section Steps

variable {session later : Session} {event : Event} {uri : String}

/-- An entry is an old one, or one that a beginning task has asked for. -/
theorem Booked.entry_origin (booked : session.Booked event later) (entry : (later.entryOf uri).isSome) :
    (session.entryOf uri).isSome ∨ session.Asker event uri := by
  cases booked with
  | kept _ entries =>
    rcases entries uri with same | ⟨gone, _⟩
    · exact .inl (same ▸ entry)
    · rw [gone] at entry
      cases entry
  | asked named asker _ _ entries =>
    by_cases here : uri = named
    · exact .inr (here ▸ asker)
    · rw [entries, if_neg here] at entry
      exact .inl entry
  | dropped request _ _ _ _ entries =>
    rw [entries] at entry
    split at entry
    · cases entry
    · exact .inl entry
  | moved _ _ _ _ entries =>
    rw [entries] at entry
    exact .inl entry

/-- A document stays open until it is closed. -/
theorem Recorded.isSome {stored : Option Document} (recorded : session.Recorded event uri stored)
    (held : (session.store.get? uri).isSome) (stays : event ≠ .closed uri) : stored.isSome := by
  cases recorded with
  | same => exact held
  | opened => rfl
  | closed closes => exact absurd closes stays
  | edited => rfl

/-- What only evicts brings back no entry. -/
theorem AnyMoves.entry_absent (moves : AnyMoves event session later)
    (calm : ∀ uri, ¬ event.RunsFor uri) (silent : ∀ request reply, event ≠ .reply request reply)
    (absent : session.entryOf uri = none) : later.entryOf uri = none := by
  induction moves with
  | refl => exact absent
  | tail _ last held =>
    obtain ⟨_, last⟩ := last
    rcases (last.evicts calm silent).2 uri with same | ⟨gone, _⟩
    · exact same.trans held
    · exact gone

/-- A closed document loses its entry, wherever the hook of the cache stands among the others. -/
theorem entryOf_closed (session : Session) (uri : String) (evicts : .eviction ∈ session.hooks.closed) :
    (session.step (.closed uri)).entryOf uri = none := by
  have notified : (Event.closed uri).notifies .closed uri = true := by simp [Event.notifies]
  have absent : (session.closeDocument uri).store.get? uri = none := by
    rw [get?_closeDocument, if_pos rfl]
  have told : .eviction ∈ (session.closeDocument uri).hooks.of .closed := by
    change .eviction ∈ (session.withdraw uri).hooks.of .closed
    rw [withdraw_frame]
    exact evicts
  obtain ⟨before, reached, moves⟩ := broadcast_hook
    ((session.closeDocument uri).log .info ("Document closed: " ++ uri)) .closed uri told notified
    fun _ => absent
  refine moves.any.entry_absent (Event.calm_of_notifies notified) (by simp) ?_
  change (before.evict uri).entryOf uri = none
  rw [entryOf_evict, if_pos rfl]

/-- A task that validates sees an open document when it begins. -/
theorem Sees.stored {task : Task} {version : Json} (sees : session.Sees task version)
    (validates : ∀ id, task.purpose ≠ .settings id) : (session.store.get? task.uri).isSome := by
  have seen : (session.store.get? task.uri).map (·.version) = some version := by
    unfold Sees at sees
    cases purpose : task.purpose with
    | settings id => exact absurd purpose (validates id)
    | push =>
      rw [purpose] at sees
      exact sees.2
    | pull id =>
      rw [purpose] at sees
      exact sees.2
    | diagnose id =>
      rw [purpose] at sees
      exact sees.2
  rw [← Option.isSome_map, seen]
  rfl

private theorem Backed.step (backed : session.Backed) (wired : session.Wired)
    (validates : ∀ task ∈ session.tasks, ∀ id, task.purpose ≠ .settings id)
    (evicts : session.cache.isSome → .eviction ∈ session.hooks.closed) (event : Event) :
    (session.step event).Backed := by
  intro uri entry
  have recorded := wired.recorded event uri
  rcases (wired.booked event).entry_origin entry with held | ⟨task, version, starts, found, rfl, sees⟩
  -- an old entry could only be left behind by a closing, and a new one is made by no closing
  · refine recorded.isSome (backed uri held) ?_
    rintro rfl
    have cached : session.cache.isSome := by
      obtain ⟨request, listed⟩ := Option.isSome_iff_exists.mp held
      obtain ⟨_, cache, present, _⟩ := entryOf_eq_some.mp listed
      rw [present]
      rfl
    rw [session.entryOf_closed uri (evicts cached)] at entry
    cases entry
  · refine recorded.isSome (sees.stored (validates task (mem_of_task? found))) ?_
    rw [starts]
    simp

end Steps

section Runs

variable {session : Session} {events : List Event}

/-- The hook of the cache is there as soon as the cache is. -/
theorem Introduced.evicts (introduced : session.Introduced events) (cached : session.cache.isSome) :
    .eviction ∈ session.hooks.closed := by
  have greeted : (firstClient? events).isSome := by
    have timeout := congrArg Option.isSome introduced.timeout
    rw [Option.isSome_map, Option.isSome_map] at timeout
    exact timeout ▸ cached
  have listed : 0 < session.hooks.closed.countP Hook.isEviction := by
    obtain ⟨first, same⟩ := Option.isSome_iff_exists.mp greeted
    rw [introduced.evictions, same, Option.toList_some, List.length_singleton]
    omega
  obtain ⟨hook, member, eviction⟩ := List.countP_pos_iff.mp listed
  cases hook with
  | eviction => exact member
  | validation => cases eviction
  | external => cases eviction

private theorem validates_runAll (rule : Rule) (hasPlugins : Bool) (events : List Event)
    (served : ∀ uri id answered, .ask uri (.settings id) answered ∉ events) :
    ∀ task ∈ ((fresh rule hasPlugins).runAll events).tasks, ∀ id, task.purpose ≠ .settings id := by
  have answers : ((fresh rule hasPlugins).runAll events).OnlyAnswers events :=
    runAll_induction (Wired.fresh rule hasPlugins) (OnlyAnswers · events) (fun _ member => nomatch member)
      events fun _ _ member wired held => held.step wired member
  intro task member id looks
  rcases answers task member with push | ⟨answered, asks⟩
  · cases looks.symm.trans push
  · revert answered asks
    rw [looks]
    exact fun answered asks => served task.uri id answered asks

private theorem backed_runAll (rule : Rule) (hasPlugins : Bool) (events : List Event)
    (served : ∀ uri id answered, .ask uri (.settings id) answered ∉ events) :
    ((fresh rule hasPlugins).runAll events).Backed := by
  induction events using List.reverseRecOn with
  | nil => exact fun uri entry => nomatch entry
  | append_singleton events event held =>
    have earlier : ∀ uri id answered, .ask uri (.settings id) answered ∉ events :=
      fun uri id answered member => served uri id answered (List.mem_append_left _ member)
    rw [runAll_concat]
    exact (held earlier).step ((Wired.fresh rule hasPlugins).runAll events)
      (validates_runAll rule hasPlugins events earlier)
      (introduced_runAll rule hasPlugins events).evicts event

/-- Settings are fetched only from a client that can be asked. -/
theorem entryOf_of_listed (rule : Rule) (hasPlugins : Bool) (events : List Event) {cache : Cache}
    (present : ((fresh rule hasPlugins).runAll events).cache = some cache) {uri : String}
    (listed : uri ∈ cache.entries.names) :
    (((fresh rule hasPlugins).runAll events).entryOf uri).isSome := by
  have wired := Wired.fresh rule hasPlugins
  obtain ⟨request, entry⟩ := Option.isSome_iff_exists.mp (Table.mem_names.mp listed)
  have made := ((wired.runAll events).entries_asked cache uri request present entry).2
  have asks : ((fresh rule hasPlugins).runAll events).asksClient = true := by
    refine (serves_runAll wired rfl events fun none => ?_).1
    rw [request?, none] at made
    cases made
  rw [entryOf_eq_some.mpr ⟨asks, cache, present, entry⟩]
  rfl

/-- Whatever happens to a session, its cache holds settings only for documents that are open, and none
at all if the client cannot be asked. Only a look-up that is not part of a validation could ask for
settings of a document that is not open. -/
theorem settings_of_open_documents (rule : Rule) (hasPlugins : Bool) (events : List Event)
    (served : ∀ uri id answered, .ask uri (.settings id) answered ∉ events) (cache : Cache)
    (present : ((fresh rule hasPlugins).runAll events).cache = some cache) :
    (∀ uri ∈ cache.entries.names, ((fresh rule hasPlugins).runAll events).store.contains uri = true) ∧
      (((fresh rule hasPlugins).runAll events).asksClient = false → cache.entries.names = []) := by
  constructor
  · intro uri listed
    exact backed_runAll rule hasPlugins events served uri
      (entryOf_of_listed rule hasPlugins events present listed)
  · intro silent
    apply List.eq_nil_iff_forall_not_mem.mpr
    intro uri listed
    have entry := entryOf_of_listed rule hasPlugins events present listed
    rw [entryOf_of_silent silent] at entry
    cases entry

/-- A document is closed while its settings are fetched, and a hook fails before that of the cache is
called; another document stays open. -/
def closedWhileFetching : List Event :=
  let uri := "file:///a.hz"
  let other := "file:///b.hz"
  [.addHook .closed (.external "watcher" (some (.reported .timeout ""))),
    .handshake { support := { configuration := true } }, .opened uri "a" ⟨.int 9, rfl⟩ .null,
    .opened other "b" ⟨.int 10, rfl⟩ .null, .run (.start ⟨uri, 0⟩), .run (.start ⟨other, 0⟩),
    .run (.send ⟨uri, 1⟩), .closed uri, .reply ⟨uri, 1⟩ (.result (.list [.null])),
    .run (.deliver ⟨uri, 1⟩), .run (.resume ⟨uri, 0⟩)]

theorem closedWhileFetching_backed :
    ∃ cache, ((fresh .null true).runAll closedWhileFetching).cache = some cache ∧
      cache.entries.names = ["file:///b.hz"] ∧
      (∀ uri id answered, .ask uri (.settings id) answered ∉ closedWhileFetching) ∧
      (∀ uri ∈ cache.entries.names,
        ((fresh .null true).runAll closedWhileFetching).store.contains uri = true) ∧
      (((fresh .null true).runAll closedWhileFetching).asksClient = false → cache.entries.names = []) := by
  have served : ∀ uri id answered, .ask uri (.settings id) answered ∉ closedWhileFetching := by
    simp [closedWhileFetching]
  exact ⟨_, rfl, rfl, served, settings_of_open_documents .null true closedWhileFetching served _ rfl⟩

end Runs

end Session

end HazeServer
