import HazeServer.Proofs.FailOpen

/-! # Entries and requests

The cache has at most one entry for a document: the request whose outcome every look-up for it takes.
`Booked` lists what an event can do to requests and entries. A request is made only where there is no
entry, an entry is dropped only by a task that learns that the request it names has failed, and
nothing but forgetting removes it otherwise.
-/

namespace HazeServer

namespace Session

/-- The request that a look-up for a document takes its settings from, if the client can be asked. -/
def entryOf (session : Session) (uri : String) : Option Ticket :=
  if session.asksClient then session.cache.bind (·.entries.get? uri) else none

section Entry

variable (session : Session)

theorem entryOf_eq_some {session : Session} {uri : String} {request : Ticket} :
    session.entryOf uri = some request ↔
      session.asksClient = true ∧
        ∃ cache, session.cache = some cache ∧ cache.entries.get? uri = some request := by
  unfold entryOf
  cases session.asksClient <;> simp [Option.bind_eq_some_iff]

theorem entryOf_congr {session later : Session} (client : later.client = session.client)
    (cache : later.cache = session.cache) (uri : String) : later.entryOf uri = session.entryOf uri := by
  unfold entryOf asksClient
  rw [client, cache]

theorem entryOf_of_silent {session : Session} (silent : session.asksClient = false) {uri : String} :
    session.entryOf uri = none := by
  simp [entryOf, silent]

theorem entryOf_updateEntries (update : Table Ticket → Table Ticket) (uri : String) :
    (session.updateEntries update).entryOf uri =
      if session.asksClient then session.cache.bind fun cache => (update cache.entries).get? uri
      else none := by
  unfold entryOf updateEntries asksClient
  cases session.cache <;> rfl

theorem entryOf_evict (uri other : String) :
    (session.evict uri).entryOf other = if other = uri then none else session.entryOf other := by
  unfold evict
  rw [entryOf_updateEntries]
  unfold entryOf
  cases session.cache with
  | none => simp
  | some cache =>
    simp only [Option.bind_some, Table.get?_erase]
    split <;> simp

theorem entryOf_clearEntries (uri : String) : session.clearEntries.entryOf uri = none := by
  unfold clearEntries
  rw [entryOf_updateEntries]
  cases session.cache <;> simp

theorem entryOf_askFor (uri other : String) (asks : session.asksClient = true)
    (cached : session.cache.isSome) :
    (session.askFor uri).2.entryOf other =
      if other = uri then some (session.nextTicket uri) else session.entryOf other := by
  obtain ⟨cache, present⟩ := Option.isSome_iff_exists.mp cached
  have made : (session.askFor uri).2.entryOf other =
      (session.updateEntries (·.set uri (session.nextTicket uri))).entryOf other := rfl
  rw [made, entryOf_updateEntries]
  unfold entryOf
  simp only [asks, present, ↓reduceIte, Option.bind_some, Table.get?_set]

/-- An entry names a request for its own document that was made. -/
theorem Wired.entry_asked {session : Session} (wired : session.Wired) {uri : String} {request : Ticket}
    (entry : session.entryOf uri = some request) :
    request.uri = uri ∧ (session.request? request).isSome := by
  obtain ⟨_, cache, present, held⟩ := entryOf_eq_some.mp entry
  exact wired.entries_asked cache uri request present held

/-- A look-up waits for the request of the entry until it is settled. -/
theorem lookUp_of_unsettled {uri : String} {request : Ticket}
    (entry : session.entryOf uri = some request) (unsettled : session.outcome? request = none) :
    session.lookUp uri = (.waiting request, session) := by
  obtain ⟨asks, cache, present, held⟩ := entryOf_eq_some.mp entry
  unfold lookUp
  simp only [present, asks, Bool.not_true, Bool.false_eq_true, ↓reduceIte, held, unsettled]

theorem lookUp_of_settled {uri : String} {request : Ticket} {outcome : Outcome}
    (entry : session.entryOf uri = some request) (settled : session.outcome? request = some outcome) :
    session.lookUp uri = session.learn request outcome := by
  obtain ⟨asks, cache, present, held⟩ := entryOf_eq_some.mp entry
  unfold lookUp
  simp only [present, asks, Bool.not_true, Bool.false_eq_true, ↓reduceIte, held, settled]

/-- Without an entry a look-up makes a request, if the client can be asked. -/
theorem lookUp_of_absent {uri : String} (absent : session.entryOf uri = none)
    (asks : session.asksClient = true) (cached : session.cache.isSome) :
    session.lookUp uri = (.waiting (session.nextTicket uri), (session.askFor uri).2) := by
  obtain ⟨cache, present⟩ := Option.isSome_iff_exists.mp cached
  have missing : cache.entries.get? uri = none := by
    simpa [entryOf, asks, present] using absent
  unfold lookUp
  simp only [present, asks, Bool.not_true, Bool.false_eq_true, ↓reduceIte, missing]
  rfl

/-- Without a cache a look-up gives the default settings. -/
theorem lookUp_of_early {uri : String} (absent : session.cache = none) :
    session.lookUp uri = (.found .default, session) := by
  unfold lookUp
  rw [absent]

/-- A client that cannot be asked has the same settings for all documents. -/
theorem lookUp_of_shared {uri : String} {cache : Cache} (present : session.cache = some cache)
    (silent : session.asksClient = false) :
    session.lookUp uri = (.found cache.global, session) := by
  unfold lookUp
  simp only [present, silent, Bool.not_false, ↓reduceIte]

/-- A look-up for a client that cannot be asked changes nothing. -/
theorem lookUp_of_silent {uri : String} (silent : session.asksClient = false ∨ session.cache = none) :
    (session.lookUp uri).2 = session := by
  cases held : session.cache with
  | none => rw [session.lookUp_of_early held]
  | some cache =>
    rcases silent with silent | absent
    · rw [session.lookUp_of_shared held silent]
    · rw [held] at absent
      cases absent

end Entry

section Frames

variable (session : Session)

theorem finishValidation_frame (task : Task) (subject : Subject) (version : Json)
    (result : Except Fault (List Diagnostic)) :
    session.finishValidation task subject version result =
      { session with
        transport := (session.finishValidation task subject version result).transport
        outbox := (session.finishValidation task subject version result).outbox } := by
  unfold finishValidation
  cases task.purpose with
  | push =>
    simp only
    unfold finishPush
    cases result with
    | error fault => rfl
    | ok diagnostics =>
      simp only
      split
      · exact session.publish_frame _
      · rfl
  | pull id => simp only [answer_eq_emitAll]; rfl
  | diagnose id => cases result <;> simp only [answer_eq_emitAll] <;> rfl
  | settings id => rfl

theorem validateWith_frame (task : Task) (subject : Subject) (version : Json) (settings : Settings) :
    session.validateWith task subject version settings =
      { session with
        taken := (session.validateWith task subject version settings).taken
        transport := (session.validateWith task subject version settings).transport
        outbox := (session.validateWith task subject version settings).outbox } := by
  unfold validateWith
  cases session.subjectDocument task.uri subject with
  | none => rfl
  | some document =>
    simp only
    rw [finishValidation_frame]

/-- A task that goes on with what it looked up touches neither requests nor entries. -/
theorem proceed_frame (task : Task) (subject : Subject) (version : Json) (lookup : Lookup) :
    session.proceed task subject version lookup =
      { session with
        tasks := (session.proceed task subject version lookup).tasks
        ready := (session.proceed task subject version lookup).ready
        taken := (session.proceed task subject version lookup).taken
        transport := (session.proceed task subject version lookup).transport
        outbox := (session.proceed task subject version lookup).outbox } := by
  unfold proceed
  cases lookup with
  | waiting request => rfl
  | cancelled => simp only; rw [endTask_frame, answer_eq_emitAll]; rfl
  | fault fault =>
    simp only
    split
    · rw [endTask_frame, answer_eq_emitAll]; rfl
    · rw [endTask_frame, finishValidation_frame]
  | found settings =>
    simp only
    split
    · rw [endTask_frame, answer_eq_emitAll]; rfl
    · rw [endTask_frame, validateWith_frame]

end Frames

/-- A task takes a turn in which it learns what a request has led to: at its first turn that of the
entry, later that of the request it waited for. -/
inductive Learns (session : Session) : Event → Ticket → Prop where
  | first (task : Task) (request : Ticket) (version : Json)
      (ready : .start task.ticket ∈ session.ready) (found : session.task? task.ticket = some task)
      (new : task.stage = .created) (live : task.cancelled = false) (sees : session.Sees task version)
      (entry : session.entryOf task.uri = some request) (settled : (session.outcome? request).isSome) :
      Learns session (.run (.start task.ticket)) request
  | later (task : Task) (request : Ticket) (subject : Subject) (version : Json)
      (ready : .resume task.ticket ∈ session.ready) (found : session.task? task.ticket = some task)
      (waits : task.stage = .waiting request subject version) (live : task.cancelled = false)
      (settled : (session.outcome? request).isSome) :
      Learns session (.run (.resume task.ticket)) request

/-- An event begins a task that looks up the settings of a document. -/
def Asker (session : Session) (event : Event) (uri : String) : Prop :=
  ∃ task version, event = .run (.start task.ticket) ∧ session.task? task.ticket = some task ∧
    task.uri = uri ∧ session.Sees task version

/-- What an event does to the requests and to the entries of the cache. If a request moves on, that is
all it does. -/
inductive Booked (session : Session) (event : Event) (later : Session) : Prop where
  | kept (requests : later.requests = session.requests)
      (entries : ∀ uri, later.entryOf uri = session.entryOf uri ∨
        (later.entryOf uri = none ∧ session.Forgets event uri))
  | asked (uri : String) (asker : session.Asker event uri) (absent : session.entryOf uri = none)
      (requests : later.requests = (session.askFor uri).2.requests)
      (entries : ∀ other, later.entryOf other =
        if other = uri then some (session.nextTicket uri) else session.entryOf other)
  | dropped (request : Ticket) (learns : session.Learns event request)
      (failed : session.outcome? request = some .failed)
      (entry : session.entryOf request.uri = some request)
      (requests : later.requests = session.requests)
      (entries : ∀ other, later.entryOf other =
        if other = request.uri then none else session.entryOf other)
  | moved (ticket : Ticket) (state : RequestState) (progresses : session.Progresses event ticket state)
      (requests : later.requests = (session.updateRequest ticket state).requests)
      (entries : ∀ uri, later.entryOf uri = session.entryOf uri) (fault : Fault)
      (grown : later.outbox = session.outbox ++ fetchEffects ticket fault state)

section Booking

variable {session later : Session} {event : Event}

theorem Booked.of_same (requests : later.requests = session.requests)
    (client : later.client = session.client) (cache : later.cache = session.cache) :
    session.Booked event later :=
  .kept requests fun uri => .inl (entryOf_congr client cache uri)

/-- A task that learns of a failure drops the entry of the request, if there still is one. -/
theorem booked_learn {job : Job} {request : Ticket} {outcome : Outcome}
    (learns : session.Learns event request) (settled : session.outcome? request = some outcome)
    (requests : later.requests = ((session.taking job).learn request outcome).2.requests)
    (client : later.client = ((session.taking job).learn request outcome).2.client)
    (cache : later.cache = ((session.taking job).learn request outcome).2.cache) :
    session.Booked event later := by
  rcases (session.taking job).learn_cases request outcome with
    same | ⟨rfl, same, held, present, entry⟩ <;> rw [same] at requests client cache
  · exact .of_same requests client cache
  · have entries (uri : String) : later.entryOf uri =
        if uri = request.uri then none else session.entryOf uri :=
      (entryOf_congr client cache uri).trans ((session.taking job).entryOf_evict request.uri uri)
    cases asks : session.asksClient with
    | true =>
      have listed : session.entryOf request.uri = some request :=
        entryOf_eq_some.mpr ⟨asks, held, present, entry⟩
      exact .dropped request learns settled listed requests entries
    | false =>
      refine .kept requests fun uri => .inl ?_
      rw [entries, entryOf_of_silent asks, ite_self]

private theorem Takes.booked {job : Job} {turn : Turn} {after : Session} (ready : job ∈ session.ready)
    (takes : (session.taking job).Takes job turn after)
    (requests : later.requests = after.requests) (client : later.client = after.client)
    (cache : later.cache = after.cache) : session.Booked (.run job) later := by
  cases takes with
  | later task request subject version outcome found waits live settled =>
    have known : session.outcome? request = some outcome := settled
    have learns : session.Learns (.run (.resume task.ticket)) request :=
      .later task request subject version ready found waits live (by rw [known]; rfl)
    exact booked_learn learns known requests client cache
  | first task version found new live sees =>
    have asker : session.Asker (.run (.start task.ticket)) task.uri :=
      ⟨task, version, rfl, found, rfl, sees⟩
    have silent (silent : session.asksClient = false ∨ session.cache = none) :
        session.Booked (.run (.start task.ticket)) later := by
      have looked : ((session.taking (.start task.ticket)).lookUp task.uri).2 =
          session.taking (.start task.ticket) := lookUp_of_silent _ silent
      rw [looked] at requests client cache
      exact .of_same requests client cache
    cases entry : session.entryOf task.uri with
    | some request =>
      cases settled : session.outcome? request with
      | none =>
        rw [(session.taking (.start task.ticket)).lookUp_of_unsettled entry settled]
          at requests client cache
        exact .of_same requests client cache
      | some outcome =>
        rw [(session.taking (.start task.ticket)).lookUp_of_settled entry settled]
          at requests client cache
        have learns : session.Learns (.run (.start task.ticket)) request :=
          .first task request version ready found new live sees entry (by rw [settled]; rfl)
        exact booked_learn learns settled requests client cache
    | none =>
      cases asks : session.asksClient with
      | false => exact silent (.inl asks)
      | true =>
        cases present : session.cache with
        | none => exact silent (.inr present)
        | some held =>
          have cached : session.cache.isSome := by rw [present]; rfl
          rw [(session.taking (.start task.ticket)).lookUp_of_absent entry asks cached]
            at requests client cache
          exact .asked task.uri asker entry requests fun other =>
            (entryOf_congr client cache other).trans (session.entryOf_askFor task.uri other asks cached)

private theorem Turns.booked {job : Job} (ready : job ∈ session.ready)
    (turns : (session.taking job).Turns job later) : session.Booked (.run job) later := by
  cases turns with
  | idle => exact .of_same rfl rfl rfl
  | dismiss task =>
    rw [endTask_frame, answer_eq_emitAll]
    exact .of_same rfl rfl rfl
  | empty task =>
    unfold endEmpty
    rw [endTask_frame, answer_eq_emitAll]
    exact .of_same rfl rfl rfl
  | turn takes =>
    exact takes.booked ready (by rw [proceed_frame]) (by rw [proceed_frame]) (by rw [proceed_frame])

private theorem booked_settleRequest {job : Job} {ticket : Ticket} {reply : Reply}
    (due : session.requestState? ticket = some (.answered reply) ∨
      (session.requestState? ticket = some .unsent ∧ reply = .fault (.reported .timeout ""))) :
    session.Booked (.run job) ((session.taking job).settleRequest ticket reply) := by
  obtain ⟨fault, grown⟩ := (session.taking job).outbox_settleRequest ticket reply
  refine .moved ticket _ (.settled reply due) ?_ (fun uri => ?_) fault grown <;> rw [settleRequest_frame] <;>
    rfl

private theorem booked_run (session : Session) (job : Job) :
    session.Booked (.run job) (session.run job) := by
  by_cases ready : job ∈ session.ready
  · rw [session.perform_taking ready]
    cases job with
    | start ticket => exact (turns_runStart _ ticket).booked ready
    | resume ticket => exact (turns_runResume _ ticket).booked ready
    | send ticket =>
      change session.Booked _ ((session.taking (.send ticket)).sendRequest ticket)
      unfold sendRequest
      split
      · next unsent =>
        split
        · exact booked_settleRequest (.inr ⟨unsent, rfl⟩)
        · exact .moved ticket .sent (.sent unsent) rfl (fun uri => rfl) (.reported .timeout "") rfl
      · exact .of_same rfl rfl rfl
    | deliver ticket =>
      change session.Booked _ ((session.taking (.deliver ticket)).deliverReply ticket)
      unfold deliverReply
      split
      · next reply answered => exact booked_settleRequest (.inl answered)
      · exact .of_same rfl rfl rfl
    | retire ticket =>
      change session.Booked _ ((session.taking (.retire ticket)).runRetire ticket)
      rw [runRetire_frame]
      exact .of_same rfl rfl rfl
  · rw [session.run_of_not_ready ready]
    exact .of_same rfl rfl rfl

private theorem Wired.booked_reply (wired : session.Wired) (request : Ticket) (reply : Reply) :
    session.Booked (.reply request reply) (session.handIn request reply).2 := by
  unfold handIn
  split
  · next outstanding =>
    have sent := requestState?_of_outstanding wired outstanding
    exact .moved request _ (.answered reply sent rfl) rfl (fun uri => rfl) (.reported .timeout "")
      (List.append_nil _).symm
  · exact .of_same rfl rfl rfl

/-- What is neither a job nor a reply can only evict. -/
theorem Move.evicts {about : String} (move : Move event about session later)
    (calm : ∀ uri, ¬ event.RunsFor uri) (silent : ∀ request reply, event ≠ .reply request reply) :
    later.requests = session.requests ∧ ∀ uri, later.entryOf uri = session.entryOf uri ∨
      (later.entryOf uri = none ∧ session.CallsForEviction event uri) := by
  have same (requests : later.requests = session.requests) (cache : later.cache = session.cache) :
      later.requests = session.requests ∧ ∀ uri, later.entryOf uri = session.entryOf uri ∨
        (later.entryOf uri = none ∧ session.CallsForEviction event uri) :=
    ⟨requests, fun uri => .inl (entryOf_congr move.sameGround.client cache uri)⟩
  cases move with
  | evict cause =>
    refine ⟨rfl, fun uri => ?_⟩
    rw [entryOf_evict]
    by_cases here : uri = about
    · subst here
      rcases cause with calls | ⟨runs, _⟩
      · exact .inr ⟨if_pos rfl, calls⟩
      · exact absurd runs (calm _)
    · exact .inl (if_neg here)
  | receive ticket reply here replies => exact absurd replies (silent _ _)
  | answer id response runs => exact absurd runs (calm _)
  | push version diagnostics document limit runs => exact absurd runs (calm _)
  | finish task runs => exact absurd runs (calm _)
  | wait task request version cache starts found here =>
    exact absurd ⟨_, starts, here⟩ (calm _)
  | ask cache runs => exact absurd runs (calm _)
  | sent ticket runs => exact absurd runs (calm _)
  | settle ticket reply runs => exact absurd runs (calm _)
  | retire ticket runs => exact absurd runs (calm _)
  | notice => exact same (by rw [publish_frame]) (by rw [publish_frame])
  | schedule =>
    refine same (session.requests_cancelValidation about) ?_
    change (session.cancelValidation about).cache = session.cache
    rw [cancelValidation_frame]
  | takeBack => exact same (by rw [cancelValidation_frame]) (by rw [cancelValidation_frame])
  | cancel => exact same (by rw [cancelTask_frame]) (by rw [cancelTask_frame])
  | tell => exact same rfl rfl
  | count => exact same rfl rfl
  | refresh => exact same rfl rfl
  | begin => exact same rfl rfl

/-- By itself an event changes entries only if it changes the configuration. -/
theorem Change.entries (change : session.Change event later) (uri : String) :
    later.entryOf uri = session.entryOf uri ∨
      (later.entryOf uri = none ∧ ∃ payload, event = .configured payload) := by
  cases change.rearranges with
  | greeted client store first =>
    have silent : session.asksClient = false := by simp [asksClient, first]
    left
    rw [entryOf_of_silent silent]
    unfold entryOf
    split <;> rfl
  | cleared payload => exact .inr ⟨session.entryOf_clearEntries uri, payload, rfl⟩
  | shared payload settings silent =>
    left
    rw [entryOf_of_silent silent]
    apply entryOf_of_silent
    exact silent
  | _ => exact .inl rfl

private theorem Wired.booked_calm (wired : session.Wired) (calm : ∀ uri, ¬ event.RunsFor uri)
    (silent : ∀ request reply, event ≠ .reply request reply) :
    session.Booked event (session.step event) := by
  obtain ⟨middle, change, moves⟩ := wired.change_step event
  have kept : middle.SameGround (session.step event) ∧
      (session.step event).requests = middle.requests ∧
      ∀ uri, (session.step event).entryOf uri = middle.entryOf uri ∨
        ((session.step event).entryOf uri = none ∧ middle.CallsForEviction event uri) := by
    refine (wired.change change).keep moves (fun later => middle.SameGround later ∧
      later.requests = middle.requests ∧ ∀ uri, later.entryOf uri = middle.entryOf uri ∨
        (later.entryOf uri = none ∧ middle.CallsForEviction event uri))
      ⟨.refl middle, rfl, fun uri => .inl rfl⟩ ?_
    rintro about first second _ move ⟨ground, requests, entries⟩
    obtain ⟨same, evicted⟩ := move.evicts calm silent
    refine ⟨ground.trans move.sameGround, same.trans requests, fun uri => ?_⟩
    rcases evicted uri with held | ⟨gone, calls⟩
    · rw [held]
      exact entries uri
    · unfold CallsForEviction at calls
      rw [ground.hooks] at calls
      exact .inr ⟨gone, calls⟩
  refine .kept (kept.2.1.trans change.requests) fun uri => ?_
  rcases kept.2.2 uri with held | ⟨gone, calls⟩
  · rw [held]
    exact (change.entries uri).imp_right fun ⟨gone, changed⟩ => ⟨gone, .inl changed⟩
  · exact .inr ⟨gone, .inr (change.callsForEviction calls)⟩

/-- Only jobs ask, send, settle or drop, and only replies are handed in; all that other events can do
is forget. -/
theorem Wired.booked (wired : session.Wired) (event : Event) :
    session.Booked event (session.step event) := by
  cases event with
  | run job => exact session.booked_run job
  | reply request reply => exact wired.booked_reply request reply
  | _ =>
    apply wired.booked_calm
    · rintro uri ⟨job, same, _⟩
      cases same
    · rintro request reply same
      cases same

end Booking

section Terms

variable {session later : Session} {event : Event}

/-- What the cache holds besides its entries: the settings of a client that cannot be asked, and the
time that a request has. -/
def terms? (session : Session) : Option (Settings × Nat) :=
  session.cache.map fun cache => (cache.global, cache.timeout)

theorem terms?_of_cache (cache : later.cache = session.cache) : later.terms? = session.terms? := by
  unfold terms?
  rw [cache]

private theorem terms?_updateEntries (session : Session) (update : Table Ticket → Table Ticket) :
    (session.updateEntries update).terms? = session.terms? := by
  unfold terms? updateEntries
  rw [Option.map_map]
  rfl

theorem Move.terms {uri : String} (move : Move event uri session later) :
    later.terms? = session.terms? := by
  rcases move.cache with same | ⟨rfl, _⟩ | ⟨rfl, _⟩
  · exact terms?_of_cache same
  · exact session.terms?_updateEntries (·.set uri (session.nextTicket uri))
  · exact session.terms?_updateEntries _

theorem AnyMoves.terms (moves : AnyMoves event session later) : later.terms? = session.terms? := by
  induction moves with
  | refl => rfl
  | tail _ last step =>
    obtain ⟨_, last⟩ := last
    exact last.terms.trans step

theorem isSome_terms? (session : Session) : session.terms?.isSome = session.cache.isSome :=
  Option.isSome_map

/-- A client that is known is not replaced. -/
theorem Change.client (change : session.Change event later) (known : session.client.isSome) :
    later.client = session.client := by
  cases change.rearranges with
  | greeted client store first =>
    rw [first] at known
    cases known
  | _ => rfl

/-- The cache stays. -/
theorem Change.cached (change : session.Change event later) (cached : session.cache.isSome) :
    later.cache.isSome := by
  cases change.rearranges with
  | greeted => rfl
  | cleared =>
    rw [Session.clearEntries, Session.updateEntries, Option.isSome_map]
    exact cached
  | shared =>
    rw [Option.isSome_map]
    exact cached
  | _ => exact cached

/-- There is a cache only for a client that is known. -/
theorem Wired.known_step (wired : session.Wired) (event : Event)
    (known : session.cache.isSome → session.client.isSome)
    (cached : (session.step event).cache.isSome) : (session.step event).client.isSome := by
  obtain ⟨middle, change, moves⟩ := wired.change_step event
  rw [← isSome_terms?, moves.terms, isSome_terms?] at cached
  rw [moves.sameGround.client]
  cases change.rearranges with
  | greeted => rfl
  | cleared =>
    rw [Session.clearEntries, Session.updateEntries, Option.isSome_map] at cached
    exact known cached
  | shared =>
    rw [Option.isSome_map] at cached
    exact known cached
  | _ => exact known cached

theorem Wired.client_step (wired : session.Wired) (event : Event) (known : session.client.isSome) :
    (session.step event).client = session.client := by
  obtain ⟨middle, change, moves⟩ := wired.change_step event
  exact moves.sameGround.client.trans (change.client known)

theorem Wired.cached_step (wired : session.Wired) (event : Event) (cached : session.cache.isSome) :
    (session.step event).cache.isSome := by
  obtain ⟨middle, change, moves⟩ := wired.change_step event
  rw [← isSome_terms?, moves.terms, isSome_terms?]
  exact change.cached cached

/-- A client that can be asked stays so, and the cache stays. -/
theorem Wired.serves_step (wired : session.Wired) (event : Event) (asks : session.asksClient = true)
    (cached : session.cache.isSome) :
    (session.step event).asksClient = true ∧ (session.step event).cache.isSome := by
  have known : session.client.isSome := by
    obtain ⟨client, known, _⟩ := Option.any_eq_true _ _ |>.mp asks
    rw [known]
    rfl
  refine ⟨?_, wired.cached_step event cached⟩
  unfold asksClient
  rw [wired.client_step event known]
  exact asks

/-- Requests are made only for a client that can be asked. -/
theorem serves_runAll {start : Session} (wired : start.Wired) (blank : start.requests = [])
    (events : List Event) (made : (start.runAll events).requests ≠ []) :
    (start.runAll events).asksClient = true ∧ (start.runAll events).cache.isSome := by
  refine runAll_induction wired
    (fun session => session.requests ≠ [] → session.asksClient = true ∧ session.cache.isSome)
    (fun made => absurd blank made) events ?_ made
  intro session event _ wired held made
  by_cases before : session.requests = []
  · cases wired.booked event with
    | kept requests => exact absurd (requests.trans before) made
    | dropped _ _ _ _ requests => exact absurd (requests.trans before) made
    | moved _ _ _ requests => simp [requests, updateRequest, before] at made
    | asked uri _ _ _ entries =>
      obtain ⟨asks, cache, present, _⟩ := entryOf_eq_some.mp ((entries uri).trans (if_pos rfl))
      rw [present]
      exact ⟨asks, rfl⟩
  · exact wired.serves_step event (held before).1 (held before).2

end Terms

section Lost

variable {session : Session} {event : Event} {uri : String} {request : Ticket}

/-- An entry is kept, or removed by forgetting or by a task that learns of its failure; none is ever
replaced. -/
theorem Wired.entry_step (wired : session.Wired) (entry : session.entryOf uri = some request) :
    (session.step event).entryOf uri = some request ∨
      ((session.step event).entryOf uri = none ∧
        (session.Forgets event uri ∨
          (session.outcome? request = some .failed ∧ session.Learns event request))) := by
  have kept (same : (session.step event).entryOf uri = session.entryOf uri) :
      (session.step event).entryOf uri = some request := same.trans entry
  cases wired.booked event with
  | kept _ entries =>
    rcases entries uri with same | ⟨gone, forgets⟩
    · exact .inl (kept same)
    · exact .inr ⟨gone, .inl forgets⟩
  | asked other _ absent _ entries =>
    have elsewhere : uri ≠ other := by
      rintro rfl
      rw [absent] at entry
      cases entry
    exact .inl (kept (by rw [entries, if_neg elsewhere]))
  | dropped dropped learns failed listed _ entries =>
    by_cases here : uri = dropped.uri
    · subst here
      obtain rfl := Option.some.inj (entry.symm.trans listed)
      exact .inr ⟨by rw [entries, if_pos rfl], .inr ⟨failed, learns⟩⟩
    · exact .inl (kept (by rw [entries, if_neg here]))
  | moved _ _ _ _ entries => exact .inl (kept (entries uri))

/-- A request that was made and is no entry does not become one again: new entries have new
tickets. -/
theorem Wired.entry_lost (wired : session.Wired) (made : (session.request? request).isSome)
    (lost : session.entryOf uri ≠ some request) : (session.step event).entryOf uri ≠ some request := by
  cases wired.booked event with
  | kept _ entries =>
    rcases entries uri with same | ⟨gone, _⟩
    · rw [same]
      exact lost
    · rw [gone]
      simp
  | asked other _ _ _ entries =>
    rw [entries]
    split
    · -- the new entry has a ticket that no request had before
      intro same
      rw [← Option.some.inj same, wired.request?_nextTicket] at made
      cases made
    · exact lost
  | dropped _ _ _ _ _ entries =>
    rw [entries]
    split
    · simp
    · exact lost
  | moved _ _ _ _ entries =>
    rw [entries]
    exact lost

/-- A move gives a document no entry but that of a new request. -/
theorem Move.entry_stems {later : Session} {about : String} (move : Move event about session later)
    (entry : later.entryOf uri = some request) :
    session.entryOf uri = some request ∨ request = session.nextTicket uri := by
  have asks : session.asksClient = true := by
    have after := (entryOf_eq_some.mp entry).1
    unfold asksClient at after
    rw [move.sameGround.client] at after
    exact after
  rcases move.cache with same | ⟨rfl, cache, present, _⟩ | ⟨rfl, _⟩
  · exact .inl (entryOf_congr move.sameGround.client same uri ▸ entry)
  · rw [entryOf_askFor session about uri asks (by rw [present]; rfl)] at entry
    split at entry
    · next here =>
      subst here
      exact .inr (Option.some.inj entry).symm
    · exact .inl entry
  · rw [entryOf_evict] at entry
    split at entry
    · cases entry
    · exact .inl entry

private theorem Booked.request_made {later : Session} (booked : session.Booked event later)
    (made : (session.request? request).isSome) : (later.request? request).isSome := by
  have same (requests : later.requests = session.requests) : (later.request? request).isSome := by
    unfold request? at *
    rw [requests]
    exact made
  cases booked with
  | kept requests => exact same requests
  | dropped _ _ _ _ requests => exact same requests
  | asked other _ _ requests =>
    have after : later.request? request = (session.askFor other).2.request? request := by
      unfold request?
      rw [requests]
    rw [after, request?_askFor, Option.isSome_or, made, Bool.true_or]
  | moved ticket state _ requests =>
    have after : later.request? request = (session.updateRequest ticket state).request? request := by
      unfold request?
      rw [requests]
    rw [after, request?_updateRequest]
    split
    · rw [Option.isSome_map, made]
    · exact made

theorem Wired.entry_lost_runAll (wired : session.Wired) (made : (session.request? request).isSome)
    (lost : session.entryOf uri ≠ some request) (events : List Event) :
    (session.runAll events).entryOf uri ≠ some request :=
  (runAll_induction wired
    (fun later => (later.request? request).isSome ∧ later.entryOf uri ≠ some request) ⟨made, lost⟩ events
    fun _ event _ wired held => ⟨(wired.booked event).request_made held.1,
      wired.entry_lost held.1 held.2⟩).2

end Lost

end Session

end HazeServer
