import HazeServer.Session.Run

/-! # What the operations of a session change

Tasks and requests are looked up by their tickets. For each operation there is one equation that says
what a look-up gives afterwards. For those that are defined by cases there is one, their frame, that
says which fields they write; every other field is then unchanged by computation.
-/

namespace HazeServer

namespace Session

/-- The number of tickets issued for a URI. -/
def issued (session : Session) (uri : String) : Nat :=
  (session.tickets.get? uri).getD 0

/-- The ticket that is issued next for a URI. -/
def nextTicket (session : Session) (uri : String) : Ticket :=
  ⟨uri, session.issued uri⟩

theorem issued_issue (session : Session) (uri other : String) :
    (session.issue uri).2.issued other =
      if other = uri then session.issued uri + 1 else session.issued other := by
  unfold issued issue
  rw [Table.get?_set]
  split <;> rfl

/-- Numbers that were issued remain so. -/
theorem issued_le_issue (session : Session) (uri other : String) :
    session.issued other ≤ (session.issue uri).2.issued other := by
  rw [issued_issue]
  split
  · next same => rw [same]; omega
  · omega

/-- Among items of different tickets each is found by its own. -/
theorem find_keyed_of_mem {α : Type} (key : α → Ticket) {items : List α} {item : α}
    (nodup : (items.map key).Nodup) (member : item ∈ items) :
    items.find? (key · == key item) = some item := by
  induction items with
  | nil => cases member
  | cons head rest step =>
    simp only [List.map_cons, List.nodup_cons, List.mem_map, not_exists, not_and] at nodup
    rcases List.mem_cons.mp member with rfl | later
    · simp
    · have other : key head ≠ key item := fun same => nodup.1 item later same.symm
      simp only [List.find?_cons, beq_eq_false_iff_ne.mpr other]
      exact step nodup.2 later

section Tasks

theorem mem_of_task? {session : Session} {ticket : Ticket} {task : Task}
    (found : session.task? ticket = some task) : task ∈ session.tasks :=
  List.mem_of_find?_eq_some found

theorem ticket_of_task? {session : Session} {ticket : Ticket} {task : Task}
    (found : session.task? ticket = some task) : task.ticket = ticket := by
  have same := List.find?_some found
  simpa only [beq_iff_eq] using same

private theorem find_map_keyed {α : Type} (key : α → Ticket) (items : List α) (change : α → α)
    (ticket : Ticket) (keeps : ∀ item, key (change item) = key item) :
    (items.map change).find? (key · == ticket) = (items.find? (key · == ticket)).map change := by
  induction items with
  | nil => rfl
  | cons item rest step =>
    simp only [List.map_cons, List.find?_cons, keeps]
    cases key item == ticket with
    | true => rfl
    | false => exact step

theorem task?_updateTask (session : Session) (task : Task) (ticket : Ticket) :
    (session.updateTask task).task? ticket =
      if ticket = task.ticket then (session.task? ticket).map fun _ => task
      else session.task? ticket := by
  have mapped := find_map_keyed Task.ticket session.tasks
    (fun held => if held.ticket = task.ticket then task else held) ticket
    (by intro held; split <;> simp_all)
  change (session.updateTask task).task? ticket = _ at mapped
  rw [mapped]
  change Option.map _ (session.task? ticket) = _
  cases found : session.task? ticket with
  | none => simp
  | some held =>
    have same := ticket_of_task? found
    subst same
    simp only [Option.map_some]
    split <;> rfl

theorem tickets_updateTask (session : Session) (task : Task) :
    (session.updateTask task).tasks.map Task.ticket = session.tasks.map Task.ticket := by
  simp only [updateTask, List.map_map]
  apply List.map_congr_left
  intro held _
  simp only [Function.comp_apply]
  split
  · next same => exact same.symm
  · rfl

theorem mem_updateTask {session : Session} {changed task : Task}
    (member : task ∈ (session.updateTask changed).tasks) :
    (task = changed ∧ ∃ held ∈ session.tasks, held.ticket = changed.ticket) ∨
      (task ∈ session.tasks ∧ task.ticket ≠ changed.ticket) := by
  obtain ⟨held, before, rfl⟩ := List.mem_map.mp member
  split
  · next same => exact .inl ⟨rfl, held, before, same⟩
  · next other => exact .inr ⟨before, other⟩

theorem tasks_endTask (session : Session) (task : Task) :
    (session.endTask task).tasks = session.tasks.filter (·.ticket ≠ task.ticket) := by
  unfold endTask
  split <;> rfl

theorem task?_endTask (session : Session) (task : Task) (ticket : Ticket) :
    (session.endTask task).task? ticket =
      if ticket = task.ticket then none else session.task? ticket := by
  simp only [task?, tasks_endTask, List.find?_filter]
  split
  · next same =>
    subst same
    simp
  · next other =>
    congr 1
    funext held
    by_cases same : held.ticket = ticket
    · subst same; simp [other]
    · simp [same]

theorem task?_startTask (session : Session) (uri : String) (purpose : Purpose) (ticket : Ticket) :
    (session.startTask uri purpose).2.task? ticket =
      (session.task? ticket).or
        (if ticket = session.nextTicket uri then some ⟨session.nextTicket uri, purpose, .created, false⟩
          else none) := by
  change List.find? _ (session.tasks ++ [⟨session.nextTicket uri, purpose, .created, false⟩]) = _
  rw [List.find?_append, List.find?_singleton]
  change (session.task? ticket).or _ = _
  congr 1
  by_cases same : ticket = session.nextTicket uri
  · simp [same]
  · simp [same, Ne.symm same]

/-- Cancelling a task changes nothing, or marks the task and lets it continue if it waits. -/
theorem cancelTask_cases (session : Session) (ticket : Ticket) :
    (session.cancelTask ticket = session ∧
        ∀ task, session.task? ticket = some task → task.cancelled = true) ∨
      ∃ task, session.task? ticket = some task ∧ task.cancelled = false ∧
        ((task.stage = .created ∧
            session.cancelTask ticket = session.updateTask { task with cancelled := true }) ∨
          (task.stage ≠ .created ∧ session.cancelTask ticket =
            (session.updateTask { task with cancelled := true }).enqueue (.resume ticket))) := by
  unfold cancelTask
  cases found : session.task? ticket with
  | none => exact .inl ⟨rfl, by simp⟩
  | some task =>
    cases live : task.cancelled with
    | true =>
      refine .inl ⟨by simp only [live, ↓reduceIte], ?_⟩
      intro other same
      cases same
      exact live
    | false =>
      refine .inr ⟨task, rfl, live, ?_⟩
      simp only [live, Bool.false_eq_true, ↓reduceIte]
      cases stage : task.stage with
      | created => exact .inl ⟨rfl, rfl⟩
      | waiting request subject version => exact .inr ⟨by simp, rfl⟩

theorem task?_cancelTask (session : Session) (ticket other : Ticket) :
    (session.cancelTask ticket).task? other =
      if other = ticket then (session.task? other).map fun task => { task with cancelled := true }
      else session.task? other := by
  have marked (task : Task) (found : session.task? ticket = some task) :
      (session.updateTask { task with cancelled := true }).task? other =
        if other = ticket then (session.task? other).map fun task => { task with cancelled := true }
        else session.task? other := by
    obtain rfl := ticket_of_task? found
    rw [task?_updateTask]
    split
    · next same => rw [same, found]; rfl
    · rfl
  rcases session.cancelTask_cases ticket with ⟨same, already⟩ | ⟨task, found, _, ⟨_, same⟩ | ⟨_, same⟩⟩
  · rw [same]
    split
    · next named =>
      subst named
      cases found : session.task? other with
      | none => rfl
      | some task => rw [Option.map_some, ← already task found]
    · rfl
  · rw [same]; exact marked task found
  · rw [same]; exact marked task found

theorem validating_cancelTask (session : Session) (ticket : Ticket) :
    (session.cancelTask ticket).validating = session.validating := by
  rcases session.cancelTask_cases ticket with ⟨same, _⟩ | ⟨_, _, _, ⟨_, same⟩ | ⟨_, same⟩⟩ <;>
    rw [same] <;> rfl

theorem cancelValidation_cases (session : Session) (uri : String) :
    (session.validating.get? uri = none ∧ session.cancelValidation uri = session) ∨
      ∃ ticket, session.validating.get? uri = some ticket ∧ session.cancelValidation uri =
        { session.cancelTask ticket with validating := session.validating.erase uri } := by
  unfold cancelValidation
  cases session.validating.get? uri with
  | none => exact .inl ⟨rfl, rfl⟩
  | some ticket =>
    refine .inr ⟨ticket, rfl, ?_⟩
    have same : ({ session with validating := session.validating.erase uri } : Session).task? ticket =
        session.task? ticket := rfl
    unfold cancelTask
    simp only [same]
    cases session.task? ticket with
    | none => rfl
    | some task =>
      simp only
      split
      · rfl
      · cases task.stage <;> rfl

/-- A task after a document was withdrawn. -/
def withdrawnTask (uri : String) (document : Document) (task : Task) : Task :=
  if task.uri = uri then { task with stage := task.stage.withdraw document } else task

@[simp] theorem withdrawnTask_ticket (uri : String) (document : Document) (task : Task) :
    (withdrawnTask uri document task).ticket = task.ticket := by
  unfold withdrawnTask
  split <;> rfl

@[simp] theorem withdrawnTask_purpose (uri : String) (document : Document) (task : Task) :
    (withdrawnTask uri document task).purpose = task.purpose := by
  unfold withdrawnTask
  split <;> rfl

@[simp] theorem withdrawnTask_cancelled (uri : String) (document : Document) (task : Task) :
    (withdrawnTask uri document task).cancelled = task.cancelled := by
  unfold withdrawnTask
  split <;> rfl

theorem withdrawnTask_created {uri : String} {document : Document} {task : Task} :
    (withdrawnTask uri document task).stage = .created ↔ task.stage = .created := by
  unfold withdrawnTask
  split
  · cases task.stage <;> simp [Stage.withdraw]
  · rfl

/-- A task keeps what it waits for; one that is about the withdrawn document keeps the document. -/
theorem withdrawnTask_waiting {uri : String} {document : Document} {task : Task} {request : Ticket}
    {subject : Subject} {version : Json}
    (waits : (withdrawnTask uri document task).stage = .waiting request subject version) :
    ∃ about, task.stage = .waiting request about version ∧
      subject = if task.uri = uri then about.withdraw document else about := by
  unfold withdrawnTask at waits
  split at waits
  · next here =>
    cases stage : task.stage with
    | created => simp [stage, Stage.withdraw] at waits
    | waiting awaited about seen =>
      simp only [stage, Stage.withdraw, Stage.waiting.injEq] at waits
      obtain ⟨rfl, rfl, rfl⟩ := waits
      exact ⟨about, rfl, by rw [if_pos here]⟩
  · next other => exact ⟨subject, waits, by rw [if_neg other]⟩

theorem withdraw_eq (session : Session) (uri : String) :
    session.withdraw uri =
      match session.store.get? uri with
      | none => session
      | some document => { session with tasks := session.tasks.map (withdrawnTask uri document) } := by
  unfold withdraw
  cases session.store.get? uri with
  | none => rfl
  | some document => rfl

theorem task?_withdraw (session : Session) (uri : String) (ticket : Ticket) :
    (session.withdraw uri).task? ticket =
      match session.store.get? uri with
      | none => session.task? ticket
      | some document => (session.task? ticket).map (withdrawnTask uri document) := by
  unfold task?
  rw [withdraw_eq]
  cases session.store.get? uri with
  | none => rfl
  | some document => exact find_map_keyed Task.ticket _ _ _ (withdrawnTask_ticket uri document)

end Tasks

section Requests

theorem tickets_updateRequest (session : Session) (ticket : Ticket) (state : RequestState) :
    (session.updateRequest ticket state).requests.map Request.ticket =
      session.requests.map Request.ticket := by
  simp only [updateRequest, List.map_map]
  apply List.map_congr_left
  intro request _
  simp only [Function.comp_apply]
  split <;> rfl

theorem request?_updateRequest (session : Session) (ticket other : Ticket) (state : RequestState) :
    (session.updateRequest ticket state).request? other =
      if other = ticket then (session.request? other).map fun request => { request with state }
      else session.request? other := by
  have mapped := find_map_keyed Request.ticket session.requests
    (fun request => if request.ticket = ticket then { request with state } else request) other
    (by intro request; split <;> rfl)
  change (session.updateRequest ticket state).request? other = _ at mapped
  rw [mapped]
  change Option.map _ (session.request? other) = _
  cases found : session.request? other with
  | none => simp
  | some request =>
    have same : request.ticket = other := by simpa only [beq_iff_eq] using List.find?_some found
    subst same
    simp only [Option.map_some]
    split <;> rfl

theorem request?_askFor (session : Session) (uri : String) (ticket : Ticket) :
    (session.askFor uri).2.request? ticket =
      (session.request? ticket).or
        (if ticket = session.nextTicket uri then some ⟨session.nextTicket uri, .unsent⟩ else none) := by
  change List.find? _ (session.requests ++ [⟨session.nextTicket uri, .unsent⟩]) = _
  rw [List.find?_append, List.find?_singleton]
  change (session.request? ticket).or _ = _
  congr 1
  by_cases same : ticket = session.nextTicket uri
  · simp [same]
  · simp [same, Ne.symm same]

end Requests

section Frames

variable (session : Session)

theorem cancelTask_frame (ticket : Ticket) :
    session.cancelTask ticket =
      { session with
        tasks := (session.cancelTask ticket).tasks
        ready := (session.cancelTask ticket).ready } := by
  rcases session.cancelTask_cases ticket with ⟨same, _⟩ | ⟨_, _, _, ⟨_, same⟩ | ⟨_, same⟩⟩ <;>
    rw [same] <;> rfl

theorem cancelValidation_frame (uri : String) :
    session.cancelValidation uri =
      { session with
        tasks := (session.cancelValidation uri).tasks
        ready := (session.cancelValidation uri).ready
        validating := (session.cancelValidation uri).validating } := by
  rcases session.cancelValidation_cases uri with ⟨_, same⟩ | ⟨ticket, _, same⟩ <;> rw [same]
  rw [cancelTask_frame]

theorem publish_frame (publication : Publication) :
    (session.publish publication).2 =
      { session with
        transport := (session.publish publication).2.transport
        outbox := (session.publish publication).2.outbox } := by
  unfold publish transmit
  cases publication.fault? with
  | some fault => rfl
  | none => cases session.transport.publishFault <;> rfl

theorem endTask_frame (task : Task) :
    session.endTask task =
      { session with
        tasks := (session.endTask task).tasks
        ready := (session.endTask task).ready } := by
  unfold endTask
  split <;> rfl

theorem settleRequest_frame (ticket : Ticket) (reply : Reply) :
    session.settleRequest ticket reply =
      { session.updateRequest ticket (.settled (outcomeOf reply)) with
        ready := (session.settleRequest ticket reply).ready
        outbox := (session.settleRequest ticket reply).outbox } := by
  unfold settleRequest
  cases reply <;> rfl

theorem runRetire_frame (ticket : Ticket) :
    session.runRetire ticket =
      { session with validating := (session.runRetire ticket).validating } := by
  unfold runRetire
  split <;> rfl

theorem withdraw_frame (uri : String) :
    session.withdraw uri = { session with tasks := (session.withdraw uri).tasks } := by
  unfold withdraw
  split <;> rfl

end Frames

end Session

end HazeServer
