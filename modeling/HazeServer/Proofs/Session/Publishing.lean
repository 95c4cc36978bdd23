import HazeServer.Proofs.Session.Saying

/-! # What is published

Only two events publish anything: the turn of a push, which publishes what it found in the stored
document at a version equal to the stored one, and the closing of a document.
-/

namespace HazeServer

/-- The publications for a document, in order. -/
def publicationsFor (uri : String) (effects : List Effect) : List Publication :=
  effects.filterMap fun effect =>
    match effect with
    | .publish publication => if publication.uri = uri then some publication else none
    | _ => none

theorem publicationsFor_append (uri : String) (first second : List Effect) :
    publicationsFor uri (first ++ second) =
      publicationsFor uri first ++ publicationsFor uri second :=
  List.filterMap_append

theorem mem_publicationsFor {uri : String} {effects : List Effect} {publication : Publication} :
    publication ∈ publicationsFor uri effects ↔
      .publish publication ∈ effects ∧ publication.uri = uri := by
  unfold publicationsFor
  rw [List.mem_filterMap]
  constructor
  · rintro ⟨effect, member, given⟩
    cases effect with
    | publish other =>
      simp only [Option.ite_none_right_eq_some, Option.some.injEq] at given
      obtain ⟨here, rfl⟩ := given
      exact ⟨member, here⟩
    | _ => cases given
  · rintro ⟨member, here⟩
    exact ⟨_, member, by simp [here]⟩

theorem publicationsFor_eq_nil {uri : String} {effects : List Effect}
    (none : ∀ publication, .publish publication ∈ effects → publication.uri ≠ uri) :
    publicationsFor uri effects = [] := by
  apply List.eq_nil_iff_forall_not_mem.mpr
  intro publication member
  obtain ⟨published, here⟩ := mem_publicationsFor.mp member
  exact none publication published here

namespace Session

private theorem mem_resultEffects {session : Session} {task : Task} {subject : Subject} {version : Json}
    {result : Except Fault (List Diagnostic)} {publication : Publication}
    (member : .publish publication ∈ session.resultEffects task subject version result) :
    task.purpose = .push ∧ ∃ diagnostics, result = .ok diagnostics ∧
      session.isCurrent task.uri subject version = true ∧
      publication = ⟨task.uri, version, diagnostics⟩ := by
  unfold resultEffects at member
  cases purpose : task.purpose with
  | push =>
    rw [purpose] at member
    cases result with
    | error fault => simp [pushEffects, validationFailure] at member
    | ok diagnostics =>
      simp only [pushEffects] at member
      split at member
      · next sent =>
        cases List.mem_singleton.mp member
        exact ⟨rfl, diagnostics, rfl, sent.1, rfl⟩
      · cases member
  | pull id => cases result <;> simp [purpose, pullEffects, pluginFailure] at member
  | diagnose id => cases result <;> simp [purpose, diagnoseEffects] at member
  | settings id => simp [purpose] at member

theorem publish_notMem_answerEffects (task : Task) (response : Response) (publication : Publication) :
    .publish publication ∉ answerEffects task response := by
  unfold answerEffects
  cases task.purpose.requestId? <;> simp

/-- A turn publishes only what the validation of a push found in the stored document, at a version
equal to the stored one. -/
theorem mem_turnEffects {session : Session} {task : Task} {subject : Subject} {version : Json}
    {lookup : Lookup} {publication : Publication}
    (member : .publish publication ∈ session.turnEffects task subject version lookup) :
    task.purpose = .push ∧ ∃ settings document diagnostics, lookup = .found settings ∧
      subject = .stored ∧ session.store.get? task.uri = some document ∧
      document.version.equals version = true ∧
      (session.rule.validate (showsRelated session.client) settings.problemLimit document).result =
        .ok diagnostics ∧
      publication = ⟨task.uri, version, diagnostics⟩ := by
  unfold turnEffects at member
  split at member
  · cases member
  · exact absurd member (publish_notMem_answerEffects _ _ _)
  · split at member
    · exact absurd member (publish_notMem_answerEffects _ _ _)
    · obtain ⟨_, _, failed, _⟩ := mem_resultEffects member
      cases failed
  · next settings =>
    split at member
    · exact absurd member (publish_notMem_answerEffects _ _ _)
    · split at member
      · cases member
      · next document about =>
        obtain ⟨push, diagnostics, result, current, rfl⟩ := mem_resultEffects member
        obtain ⟨rfl, stored, held, same⟩ := isCurrent_iff.mp current
        obtain rfl := Option.some.inj (about.symm.trans held)
        exact ⟨push, settings, document, diagnostics, rfl, rfl, held, same, result, rfl⟩

/-- An event is the turn of a push that publishes what it found. -/
inductive Pushes (session : Session) (event : Event) (publication : Publication) : Prop where
  | intro (job : Job) (turn : Turn) (after : Session) (settings : Settings) (document : Document)
      (runs : event = .run job) (ready : job ∈ session.ready)
      (takes : (session.taking job).Takes job turn after) (push : turn.task.purpose = .push)
      (here : turn.task.uri = publication.uri) (looked : turn.lookup = .found settings)
      (about : turn.subject = .stored) (seen : turn.version = publication.version)
      (held : session.store.get? publication.uri = some document)
      (same : document.version.equals publication.version = true)
      (valid : (session.rule.validate (showsRelated session.client) settings.problemLimit
        document).result = .ok publication.diagnostics)

private theorem Spoken.publishes {session : Session} {job : Job} {effects : List Effect}
    {publication : Publication} (spoken : session.Spoken job effects)
    (member : .publish publication ∈ effects) :
    ∃ turn after, session.Takes job turn after ∧
      .publish publication ∈ after.turnEffects turn.task turn.subject turn.version turn.lookup := by
  cases spoken with
  | plain plain => cases plain _ member
  | dismissed task => exact absurd member (publish_notMem_answerEffects task _ _)
  | empty task => exact absurd member (publish_notMem_answerEffects task _ _)
  | turn takes => exact ⟨_, _, takes, member⟩

/-- Whatever is published is the notice of a closed document or comes from a push. -/
theorem Wired.publishes {session : Session} (wired : session.Wired) {event : Event}
    {publication : Publication} (member : .publish publication ∈ session.emitted event) :
    (event = .closed publication.uri ∧ publication = closeNotice publication.uri) ∨
      session.Pushes event publication := by
  rcases wired.justified member with ⟨job, rfl, _⟩ | notice
  · right
    rcases wired.spoken job with ⟨ready, spoken⟩ | nothing
    · obtain ⟨turn, after, takes, published⟩ := spoken.publishes member
      have ground := (takes.onlyAsks (wired.change (.ran job ready))).ground
      obtain ⟨push, settings, document, diagnostics, looked, about, held, same, valid, rfl⟩ :=
        mem_turnEffects published
      rw [ground.store] at held
      rw [ground.rule, ground.client] at valid
      exact .intro job turn after settings document rfl ready takes push rfl looked about rfl held
        same valid
    · rw [nothing] at member
      cases member
  · exact .inl notice

/-- An event that neither closes a document nor is the turn of a push for it publishes nothing for
it. -/
theorem Wired.publications_step {session : Session} (wired : session.Wired) {event : Event}
    {uri : String} (stays : event.closes uri = false)
    (idle : ∀ publication, publication.uri = uri → ¬ session.Pushes event publication) :
    publicationsFor uri (session.step event).outbox = publicationsFor uri session.outbox := by
  have silent : publicationsFor uri (session.emitted event) = [] := by
    apply publicationsFor_eq_nil
    rintro publication member rfl
    rcases wired.publishes member with ⟨rfl, _⟩ | pushes
    · simp [Event.closes] at stays
    · exact idle publication rfl pushes
  rw [wired.outbox_step, publicationsFor_append, silent, List.append_nil]

/-- Nothing is published for a document that is not open, except when it is closed. -/
theorem Wired.publications_absent {session : Session} (wired : session.Wired) {event : Event}
    {uri : String} (absent : session.store.get? uri = none) (stays : event.closes uri = false) :
    publicationsFor uri (session.step event).outbox = publicationsFor uri session.outbox := by
  refine wired.publications_step stays ?_
  rintro publication rfl ⟨_, _, _, _, document, _, _, _, _, _, _, _, _, held, _⟩
  rw [absent] at held
  cases held

end Session

end HazeServer
