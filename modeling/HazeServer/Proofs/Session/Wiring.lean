import HazeServer.Proofs.Session.Turn

/-! # The wiring of a session

Tickets tie tasks, requests, cache entries, pushes under way and jobs together. A session is wired
if no ticket is used twice, every entry and every waiting task names a request for its own document
that was made, and every push that was not cancelled is the one under way for its document. Here this
is shown to survive each operation on its own.
-/

namespace HazeServer

namespace Session

/-- What holds of the tickets of a session. -/
structure Wired (session : Session) : Prop where
  tasks_nodup : (session.tasks.map Task.ticket).Nodup
  requests_nodup : (session.requests.map Request.ticket).Nodup
  tasks_issued : ∀ task ∈ session.tasks, task.ticket.number < session.issued task.uri
  requests_issued :
    ∀ request ∈ session.requests, request.ticket.number < session.issued request.ticket.uri
  entries_asked : ∀ cache uri request, session.cache = some cache →
    cache.entries.get? uri = some request → request.uri = uri ∧ (session.request? request).isSome
  waits_asked : ∀ task ∈ session.tasks, ∀ request subject version,
    task.stage = .waiting request subject version →
      request.uri = task.uri ∧ (session.request? request).isSome
  validating_named : ∀ uri ticket, session.validating.get? uri = some ticket → ticket.uri = uri
  entered_pushes : ∀ uri ticket, session.validating.get? uri = some ticket →
    ticket.number < session.issued uri ∧
      ∀ task ∈ session.tasks, task.ticket = ticket → task.purpose = .push
  pushes_entered : ∀ task ∈ session.tasks, task.purpose = .push → task.cancelled = false →
    session.validating.get? task.uri = some task.ticket
  retired_ended : ∀ ticket, .retire ticket ∈ session.ready →
    session.task? ticket = none ∧ ticket.number < session.issued ticket.uri

namespace Wired

theorem fresh (rule : Rule) (hasPlugins : Bool) : (Session.fresh rule hasPlugins).Wired := by
  constructor <;> simp [Session.fresh]

theorem forClient (client : ClientSupport) (timeout : Nat) :
    (Session.forClient client timeout).Wired := by
  constructor
  case entries_asked =>
    intro cache uri request present entry
    cases present
    cases entry
  all_goals simp [Session.forClient]

/-- Only these fields matter. -/
theorem congr {session later : Session} (wired : session.Wired)
    (tasks : later.tasks = session.tasks) (requests : later.requests = session.requests)
    (tickets : later.tickets = session.tickets)
    (cache : later.cache.map Cache.entries = session.cache.map Cache.entries)
    (validating : later.validating = session.validating) (ready : later.ready = session.ready) :
    later.Wired := by
  have request (ticket : Ticket) : later.request? ticket = session.request? ticket := by
    unfold request?
    rw [requests]
  constructor
  case tasks_nodup => rw [tasks]; exact wired.tasks_nodup
  case requests_nodup => rw [requests]; exact wired.requests_nodup
  case tasks_issued => unfold issued; rw [tasks, tickets]; exact wired.tasks_issued
  case requests_issued => unfold issued; rw [requests, tickets]; exact wired.requests_issued
  case entries_asked =>
    intro held uri ticket present entry
    rw [request]
    rw [present, Option.map_some] at cache
    obtain ⟨before, present, same⟩ := Option.map_eq_some_iff.mp cache.symm
    rw [← same] at entry
    exact wired.entries_asked before uri ticket present entry
  case waits_asked =>
    intro task member ticket subject version waits
    rw [request]
    rw [tasks] at member
    exact wired.waits_asked task member ticket subject version waits
  case validating_named => rw [validating]; exact wired.validating_named
  case entered_pushes => unfold issued; rw [tasks, tickets, validating]; exact wired.entered_pushes
  case pushes_entered => rw [tasks, validating]; exact wired.pushes_entered
  case retired_ended => unfold task? issued; rw [tasks, tickets, ready]; exact wired.retired_ended

variable {session : Session} (wired : session.Wired)

include wired

theorem task_of_mem {task : Task} (member : task ∈ session.tasks) :
    session.task? task.ticket = some task :=
  find_keyed_of_mem Task.ticket wired.tasks_nodup member

theorem request_of_mem {request : Request} (member : request ∈ session.requests) :
    session.request? request.ticket = some request :=
  find_keyed_of_mem Request.ticket wired.requests_nodup member

private theorem task?_nextTicket (uri : String) : session.task? (session.nextTicket uri) = none := by
  cases found : session.task? (session.nextTicket uri) with
  | none => rfl
  | some task =>
    have issued := wired.tasks_issued task (mem_of_task? found)
    rw [Task.uri, ticket_of_task? found] at issued
    exact absurd issued (Nat.lt_irrefl _)

theorem request?_nextTicket (uri : String) : session.request? (session.nextTicket uri) = none := by
  cases found : session.request? (session.nextTicket uri) with
  | none => rfl
  | some request =>
    have issued := wired.requests_issued request (List.mem_of_find?_eq_some found)
    have named : request.ticket = session.nextTicket uri := by
      simpa only [beq_iff_eq] using List.find?_some found
    rw [named] at issued
    exact absurd issued (Nat.lt_irrefl _)

/-- A look-up learns only of requests for its own document. -/
theorem lookUp (uri : String) :
    session.LookedUp uri (session.lookUp uri).1 (session.lookUp uri).2 := by
  unfold Session.lookUp
  cases held : session.cache with
  | none => exact .early held
  | some cache =>
    cases asks : session.asksClient with
    | false => exact .shared cache held asks
    | true =>
      simp only [Bool.not_true, Bool.false_eq_true, ↓reduceIte]
      cases entry : cache.entries.get? uri with
      | none => exact .asked cache held asks entry
      | some request =>
        cases settled : session.outcome? request with
        | none =>
          simp only [settled]
          exact .joined cache request held asks entry settled
        | some outcome =>
          simp only [settled]
          exact .learned request outcome (wired.entries_asked cache uri request held entry).1 settled

/-- Tasks may be changed in place, as long as they keep their tickets and purposes, none is cancelled
no longer, and they wait for requests that were made. -/
theorem change_tasks {later : Session} (requests : later.requests = session.requests)
    (tickets : later.tickets = session.tickets) (cache : later.cache = session.cache)
    (validating : later.validating = session.validating)
    (ready : ∀ ticket, .retire ticket ∈ later.ready → .retire ticket ∈ session.ready)
    (names : later.tasks.map Task.ticket = session.tasks.map Task.ticket)
    (each : ∀ task ∈ later.tasks, ∃ held ∈ session.tasks, held.ticket = task.ticket ∧
      held.purpose = task.purpose ∧ (task.cancelled = false → held.cancelled = false) ∧
      ∀ request subject version, task.stage = .waiting request subject version →
        request.uri = task.uri ∧ (session.request? request).isSome) : later.Wired := by
  have request (ticket : Ticket) : later.request? ticket = session.request? ticket := by
    unfold request?
    rw [requests]
  have numbers (uri : String) : later.issued uri = session.issued uri := by
    unfold issued
    rw [tickets]
  constructor
  case tasks_nodup => rw [names]; exact wired.tasks_nodup
  case requests_nodup => rw [requests]; exact wired.requests_nodup
  case tasks_issued =>
    intro task member
    obtain ⟨held, before, same, _⟩ := each task member
    have bound := wired.tasks_issued held before
    rw [Task.uri, same] at bound
    rw [numbers]
    exact bound
  case requests_issued =>
    intro held member
    rw [requests] at member
    rw [numbers]
    exact wired.requests_issued held member
  case entries_asked =>
    intro held uri ticket present entry
    rw [cache] at present
    rw [request]
    exact wired.entries_asked held uri ticket present entry
  case waits_asked =>
    intro task member ticket subject version waits
    obtain ⟨_, _, _, _, _, asked⟩ := each task member
    rw [request]
    exact asked ticket subject version waits
  case validating_named => rw [validating]; exact wired.validating_named
  case entered_pushes =>
    intro uri ticket entry
    rw [validating] at entry
    obtain ⟨bound, pushes⟩ := wired.entered_pushes uri ticket entry
    rw [numbers]
    refine ⟨bound, fun task member named => ?_⟩
    obtain ⟨held, before, same, purpose, _⟩ := each task member
    exact purpose.symm.trans (pushes held before (same.trans named))
  case pushes_entered =>
    intro task member push live
    obtain ⟨held, before, same, purpose, cancelled, _⟩ := each task member
    have entered := wired.pushes_entered held before (purpose.trans push) (cancelled live)
    rw [Task.uri, same] at entered
    rw [validating]
    exact entered
  case retired_ended =>
    intro ticket retired
    obtain ⟨ended, bound⟩ := wired.retired_ended ticket (ready ticket retired)
    rw [numbers]
    refine ⟨?_, bound⟩
    cases found : later.task? ticket with
    | none => rfl
    | some task =>
      obtain ⟨held, before, same, _⟩ := each task (mem_of_task? found)
      have present := wired.task_of_mem before
      rw [same, ticket_of_task? found, ended] at present
      cases present

theorem updateTask {task changed : Task} (found : session.task? task.ticket = some task)
    (ticket : changed.ticket = task.ticket) (purpose : changed.purpose = task.purpose)
    (cancelled : changed.cancelled = false → task.cancelled = false)
    (asked : ∀ request subject version, changed.stage = .waiting request subject version →
      request.uri = task.uri ∧ (session.request? request).isSome) :
    (session.updateTask changed).Wired := by
  refine wired.change_tasks rfl rfl rfl rfl (fun _ => id) (tickets_updateTask session changed) ?_
  intro other member
  rcases mem_updateTask member with ⟨rfl, _⟩ | ⟨before, _⟩
  · refine ⟨task, mem_of_task? found, ticket.symm, purpose.symm, cancelled, ?_⟩
    rw [Task.uri, ticket]
    exact asked
  · exact ⟨other, before, rfl, rfl, id, wired.waits_asked other before⟩

theorem enqueue {job : Job} (other : ∀ ticket, job ≠ .retire ticket) :
    (session.enqueue job).Wired := by
  refine wired.change_tasks rfl rfl rfl rfl ?_ rfl ?_
  · intro ticket member
    rcases List.mem_append.mp member with before | new
    · exact before
    · exact absurd (List.mem_singleton.mp new).symm (other ticket)
  · intro task member
    exact ⟨task, member, rfl, rfl, id, wired.waits_asked task member⟩

theorem cancelTask (ticket : Ticket) : (session.cancelTask ticket).Wired := by
  rcases session.cancelTask_cases ticket with ⟨same, _⟩ | ⟨task, found, live, cases⟩
  · rw [same]; exact wired
  · obtain rfl := ticket_of_task? found
    have marked : (session.updateTask { task with cancelled := true }).Wired :=
      wired.updateTask found rfl rfl (fun _ => live) (wired.waits_asked task (mem_of_task? found))
    rcases cases with ⟨_, same⟩ | ⟨_, same⟩
    · rw [same]; exact marked
    · rw [same]; exact marked.enqueue (by simp)

theorem withdraw (uri : String) : (session.withdraw uri).Wired := by
  rw [withdraw_eq]
  cases session.store.get? uri with
  | none => exact wired
  | some document =>
    refine wired.change_tasks rfl rfl rfl rfl (fun _ => id) ?_ ?_
    · simp [Function.comp_def]
    · intro task member
      obtain ⟨before, held, rfl⟩ := List.mem_map.mp member
      refine ⟨before, held, by simp, by simp, by simp, ?_⟩
      intro request subject version waits
      obtain ⟨about, waited, _⟩ := withdrawnTask_waiting waits
      rw [Task.uri, withdrawnTask_ticket]
      exact wired.waits_asked before held request about version waited

theorem endTask (task : Task) (found : session.task? task.ticket = some task) :
    (session.endTask task).Wired := by
  have kept {other : Task} (member : other ∈ (session.endTask task).tasks) :
      other ∈ session.tasks := by
    rw [tasks_endTask] at member
    exact (List.mem_filter.mp member).1
  have names : ((session.endTask task).tasks.map Task.ticket).Sublist
      (session.tasks.map Task.ticket) := by
    rw [tasks_endTask]
    exact List.filter_sublist.map _
  have frame := session.endTask_frame task
  have requests : (session.endTask task).requests = session.requests := by rw [frame]
  have tickets : (session.endTask task).tickets = session.tickets := by rw [frame]
  have cache : (session.endTask task).cache = session.cache := by rw [frame]
  have validating : (session.endTask task).validating = session.validating := by
    rw [frame]
  have request (ticket : Ticket) : (session.endTask task).request? ticket = session.request? ticket := by
    unfold request?
    rw [requests]
  have numbers (uri : String) : (session.endTask task).issued uri = session.issued uri := by
    unfold issued
    rw [tickets]
  constructor
  case tasks_nodup => exact wired.tasks_nodup.sublist names
  case requests_nodup => rw [requests]; exact wired.requests_nodup
  case tasks_issued =>
    intro other member
    rw [numbers]
    exact wired.tasks_issued other (kept member)
  case requests_issued =>
    intro held member
    rw [requests] at member
    rw [numbers]
    exact wired.requests_issued held member
  case entries_asked =>
    intro held uri ticket present entry
    rw [cache] at present
    rw [request]
    exact wired.entries_asked held uri ticket present entry
  case waits_asked =>
    intro other member ticket subject version waits
    rw [request]
    exact wired.waits_asked other (kept member) ticket subject version waits
  case validating_named => rw [validating]; exact wired.validating_named
  case entered_pushes =>
    intro uri ticket entry
    rw [validating] at entry
    obtain ⟨bound, pushes⟩ := wired.entered_pushes uri ticket entry
    rw [numbers]
    exact ⟨bound, fun other member => pushes other (kept member)⟩
  case pushes_entered =>
    intro other member push live
    rw [validating]
    exact wired.pushes_entered other (kept member) push live
  case retired_ended =>
    intro ticket retired
    rw [task?_endTask, numbers]
    by_cases same : ticket = task.ticket
    · subst same
      rw [if_pos rfl]
      exact ⟨rfl, wired.tasks_issued task (mem_of_task? found)⟩
    · rw [if_neg same]
      apply wired.retired_ended
      unfold Session.endTask at retired
      split at retired
      · rcases List.mem_append.mp retired with before | new
        · exact before
        · simp only [List.mem_singleton, Job.retire.injEq] at new
          exact absurd new same
      · exact retired

/-- A new task may be added together with a table of pushes that still lists those not cancelled. -/
theorem add_task (uri : String) (purpose : Purpose) (validating : Table Ticket)
    (entries : ∀ other ticket, validating.get? other = some ticket →
      session.validating.get? other = some ticket ∨
        (other = uri ∧ ticket = session.nextTicket uri ∧ purpose = .push))
    (entered : ∀ task ∈ session.tasks, task.purpose = .push → task.cancelled = false →
      validating.get? task.uri = some task.ticket)
    (own : purpose = .push → validating.get? uri = some (session.nextTicket uri)) :
    { (session.startTask uri purpose).2 with validating }.Wired := by
  have absent := wired.task?_nextTicket uri
  have grows (other : String) := session.issued_le_issue uri other
  constructor
  case tasks_nodup =>
    change ((session.tasks ++ [_]).map Task.ticket).Nodup
    rw [List.map_append, List.nodup_append]
    refine ⟨wired.tasks_nodup, by simp, ?_⟩
    intro ticket member other new
    obtain ⟨task, before, rfl⟩ := List.mem_map.mp member
    have present := wired.task_of_mem before
    rintro rfl
    simp only [List.map_cons, List.map_nil, List.mem_singleton] at new
    rw [new] at present
    exact absurd (present.symm.trans absent) (by simp)
  case requests_nodup => exact wired.requests_nodup
  case tasks_issued =>
    intro task member
    rcases List.mem_append.mp member with before | new
    · exact Nat.lt_of_lt_of_le (wired.tasks_issued task before) (grows _)
    · obtain rfl := List.mem_singleton.mp new
      change session.issued uri < (session.issue uri).2.issued uri
      rw [issued_issue, if_pos rfl]
      omega
  case requests_issued =>
    intro request member
    exact Nat.lt_of_lt_of_le (wired.requests_issued request member) (grows _)
  case entries_asked => exact wired.entries_asked
  case waits_asked =>
    intro task member request subject version waits
    rcases List.mem_append.mp member with before | new
    · exact wired.waits_asked task before request subject version waits
    · obtain rfl := List.mem_singleton.mp new
      cases waits
  case validating_named =>
    intro other ticket entry
    rcases entries other ticket entry with before | ⟨rfl, rfl, _⟩
    · exact wired.validating_named other ticket before
    · rfl
  case entered_pushes =>
    intro other ticket entry
    rcases entries other ticket entry with before | ⟨rfl, rfl, push⟩
    · obtain ⟨bound, pushes⟩ := wired.entered_pushes other ticket before
      refine ⟨Nat.lt_of_lt_of_le bound (grows _), fun task member named => ?_⟩
      rcases List.mem_append.mp member with held | new
      · exact pushes task held named
      · obtain rfl := List.mem_singleton.mp new
        have here := wired.validating_named other ticket before
        subst named
        subst here
        exact absurd bound (Nat.lt_irrefl _)
    · constructor
      · change session.issued other < (session.issue other).2.issued other
        rw [issued_issue, if_pos rfl]
        omega
      · intro task member named
        rcases List.mem_append.mp member with held | new
        · have found := wired.task_of_mem held
          rw [named, absent] at found
          cases found
        · obtain rfl := List.mem_singleton.mp new
          exact push
  case pushes_entered =>
    intro task member push live
    rcases List.mem_append.mp member with before | new
    · exact entered task before push live
    · obtain rfl := List.mem_singleton.mp new
      exact own push
  case retired_ended =>
    intro ticket retired
    rcases List.mem_append.mp retired with before | new
    · obtain ⟨ended, bound⟩ := wired.retired_ended ticket before
      refine ⟨?_, Nat.lt_of_lt_of_le bound (grows _)⟩
      change (session.startTask uri purpose).2.task? ticket = none
      rw [task?_startTask, ended, Option.none_or, if_neg]
      rintro rfl
      exact absurd bound (Nat.lt_irrefl _)
    · simp at new

theorem startTask (uri : String) {purpose : Purpose} (answered : purpose.requestId?.isSome) :
    (session.startTask uri purpose).2.Wired := by
  apply wired.add_task uri purpose session.validating (fun _ _ => .inl) wired.pushes_entered
  rintro rfl
  simp [Purpose.requestId?] at answered

/-- Without its entry in the table, the push under way has to be cancelled. -/
theorem cancelValidation (uri : String) : (session.cancelValidation uri).Wired := by
  rcases session.cancelValidation_cases uri with ⟨_, same⟩ | ⟨ticket, entry, same⟩
  · rw [same]; exact wired
  · rw [same]
    have cancelled := wired.cancelTask ticket
    have fewer (other : String) (held : Ticket)
        (present : (session.validating.erase uri).get? other = some held) :
        (session.cancelTask ticket).validating.get? other = some held := by
      rw [Table.get?_erase] at present
      rw [validating_cancelTask]
      split at present
      · cases present
      · exact present
    refine { cancelled with validating_named := ?_, entered_pushes := ?_, pushes_entered := ?_ }
    · exact fun other held present => cancelled.validating_named other held (fewer other held present)
    · exact fun other held present => cancelled.entered_pushes other held (fewer other held present)
    · intro task member push live
      have entered := cancelled.pushes_entered task member push live
      rw [validating_cancelTask] at entered
      rw [Table.get?_erase, if_neg, entered]
      rintro rfl
      rw [entry] at entered
      obtain rfl := Option.some.inj entered
      have found := cancelled.task_of_mem member
      rw [task?_cancelTask, if_pos rfl] at found
      obtain ⟨before, _, rfl⟩ := Option.map_eq_some_iff.mp found
      cases live

/-- After the push under way was cancelled, no other push is left. -/
theorem cancelled_of_cancelValidation (uri : String) {task : Task}
    (member : task ∈ (session.cancelValidation uri).tasks) (here : task.uri = uri)
    (push : task.purpose = .push) : task.cancelled = true := by
  cases live : task.cancelled with
  | true => rfl
  | false =>
    have entered := (wired.cancelValidation uri).pushes_entered task member push live
    rw [here] at entered
    rcases session.cancelValidation_cases uri with ⟨absent, same⟩ | ⟨ticket, _, same⟩
    · rw [same, absent] at entered
      cases entered
    · rw [same, Table.get?_erase, if_pos rfl] at entered
      cases entered

theorem schedule (uri : String) : (session.schedule uri).Wired := by
  have cancelled := wired.cancelValidation uri
  apply cancelled.add_task uri .push
  · intro other ticket present
    rw [Table.get?_set] at present
    split at present
    · next same =>
      obtain rfl := Option.some.inj present
      exact .inr ⟨same, rfl, rfl⟩
    · exact .inl present
  · intro task member push live
    have elsewhere : task.uri ≠ uri := by
      intro here
      rw [wired.cancelled_of_cancelValidation uri member here push] at live
      cases live
    rw [Table.get?_set, if_neg elsewhere]
    exact cancelled.pushes_entered task member push live
  · intro _
    rw [Table.get?_set, if_pos rfl]
    rfl

theorem askFor (uri : String) : (session.askFor uri).2.Wired := by
  have absent := wired.request?_nextTicket uri
  have grows (other : String) := session.issued_le_issue uri other
  have kept (ticket : Ticket) (made : (session.request? ticket).isSome) :
      ((session.askFor uri).2.request? ticket).isSome := by
    rw [request?_askFor, Option.isSome_or, made, Bool.true_or]
  constructor
  case tasks_nodup => exact wired.tasks_nodup
  case requests_nodup =>
    change ((session.requests ++ [_]).map Request.ticket).Nodup
    rw [List.map_append, List.nodup_append]
    refine ⟨wired.requests_nodup, by simp, ?_⟩
    intro ticket member other new
    obtain ⟨request, before, rfl⟩ := List.mem_map.mp member
    have present := wired.request_of_mem before
    rintro rfl
    simp only [List.map_cons, List.map_nil, List.mem_singleton] at new
    rw [new] at present
    exact absurd (present.symm.trans absent) (by simp)
  case tasks_issued =>
    intro task member
    exact Nat.lt_of_lt_of_le (wired.tasks_issued task member) (grows _)
  case requests_issued =>
    intro request member
    rcases List.mem_append.mp member with before | new
    · exact Nat.lt_of_lt_of_le (wired.requests_issued request before) (grows _)
    · obtain rfl := List.mem_singleton.mp new
      change session.issued uri < (session.issue uri).2.issued uri
      rw [issued_issue, if_pos rfl]
      omega
  case entries_asked =>
    intro cache other request present entry
    obtain ⟨before, held, rfl⟩ := Option.map_eq_some_iff.mp present
    rw [Table.get?_set] at entry
    split at entry
    · next same =>
      obtain rfl := Option.some.inj entry
      refine ⟨same.symm, ?_⟩
      change ((session.askFor uri).2.request? (session.nextTicket uri)).isSome
      rw [request?_askFor, absent, if_pos rfl]
      rfl
    · obtain ⟨named, made⟩ := wired.entries_asked before other request held entry
      exact ⟨named, kept request made⟩
  case waits_asked =>
    intro task member request subject version waits
    obtain ⟨named, made⟩ := wired.waits_asked task member request subject version waits
    exact ⟨named, kept request made⟩
  case validating_named => exact wired.validating_named
  case entered_pushes =>
    intro other ticket entry
    obtain ⟨bound, pushes⟩ := wired.entered_pushes other ticket entry
    exact ⟨Nat.lt_of_lt_of_le bound (grows _), pushes⟩
  case pushes_entered => exact wired.pushes_entered
  case retired_ended =>
    intro ticket retired
    rcases List.mem_append.mp retired with before | new
    · obtain ⟨ended, bound⟩ := wired.retired_ended ticket before
      exact ⟨ended, Nat.lt_of_lt_of_le bound (grows _)⟩
    · simp at new

theorem updateRequest (ticket : Ticket) (state : RequestState) :
    (session.updateRequest ticket state).Wired := by
  have kept (other : Ticket) (made : (session.request? other).isSome) :
      ((session.updateRequest ticket state).request? other).isSome := by
    rw [request?_updateRequest]
    split
    · rw [Option.isSome_map, made]
    · exact made
  have names := session.tickets_updateRequest ticket state
  refine { wired with
    requests_nodup := ?_, requests_issued := ?_, entries_asked := ?_, waits_asked := ?_ }
  · rw [names]; exact wired.requests_nodup
  · intro request member
    have named := List.mem_map_of_mem (f := Request.ticket) member
    rw [names] at named
    obtain ⟨before, held, same⟩ := List.mem_map.mp named
    rw [← same]
    exact wired.requests_issued before held
  · intro cache uri request present entry
    obtain ⟨named, made⟩ := wired.entries_asked cache uri request present entry
    exact ⟨named, kept request made⟩
  · intro task member request subject version waits
    obtain ⟨named, made⟩ := wired.waits_asked task member request subject version waits
    exact ⟨named, kept request made⟩

theorem settleRequest (ticket : Ticket) (reply : Reply) :
    (session.settleRequest ticket reply).Wired := by
  have updated := wired.updateRequest ticket (.settled (outcomeOf reply))
  have retired (jobs : List Task) (other : Ticket)
      (member : .retire other ∈ session.ready ++ jobs.map fun task => Job.resume task.ticket) :
      .retire other ∈ session.ready := by
    rcases List.mem_append.mp member with before | new
    · exact before
    · simp at new
  unfold Session.settleRequest
  cases reply <;>
    exact { updated with
      retired_ended := fun other member => updated.retired_ended other (retired _ other member) }

/-- Entries may be forgotten. -/
theorem updateEntries (update : Table Ticket → Table Ticket)
    (fewer : ∀ entries uri request, (update entries).get? uri = some request →
      entries.get? uri = some request) : (session.updateEntries update).Wired := by
  refine { wired with entries_asked := ?_ }
  intro cache uri request present entry
  obtain ⟨before, held, rfl⟩ := Option.map_eq_some_iff.mp present
  exact wired.entries_asked before uri request held (fewer before.entries uri request entry)

theorem evict (uri : String) : (session.evict uri).Wired := by
  apply wired.updateEntries
  intro entries other request entry
  rw [Table.get?_erase] at entry
  split at entry
  · cases entry
  · exact entry

theorem clearEntries : session.clearEntries.Wired :=
  wired.updateEntries _ (fun _ _ _ entry => by cases entry)

/-- A push that has ended may leave the table. -/
theorem runRetire {ticket : Ticket} (ended : session.task? ticket = none) :
    (session.runRetire ticket).Wired := by
  unfold Session.runRetire
  split
  · next entry =>
    have fewer (uri : String) (held : Ticket)
        (present : (session.validating.erase ticket.uri).get? uri = some held) :
        session.validating.get? uri = some held := by
      rw [Table.get?_erase] at present
      split at present
      · cases present
      · exact present
    refine { wired with validating_named := ?_, entered_pushes := ?_, pushes_entered := ?_ }
    · exact fun uri held present => wired.validating_named uri held (fewer uri held present)
    · exact fun uri held present => wired.entered_pushes uri held (fewer uri held present)
    · intro task member push live
      have entered := wired.pushes_entered task member push live
      rw [Table.get?_erase, if_neg, entered]
      intro here
      rw [here, entry] at entered
      have found := wired.task_of_mem member
      rw [← Option.some.inj entered, ended] at found
      cases found
  · exact wired

end Wired

end Session

end HazeServer
