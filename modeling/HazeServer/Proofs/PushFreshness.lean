import HazeServer.Proofs.Diagnostic
import HazeServer.Proofs.Document.Version
import HazeServer.Proofs.Session.Publishing
import Mathlib.Data.List.Induction

/-! # Pushes are never out of date

The document of a push may be changed, replaced or closed while the push is waiting. It publishes
only if the document is still the stored one, at the version that it saw at its first turn. As long
as a document is neither opened anew nor closed its version only grows, so a version that is the same
is one that nothing has happened to. What is published is then about the stored text, the versions
published for a document do not decrease, and for a closed document there are only notices.
-/

namespace HazeServer

/-- Whether the version that an event gives to a document is an integer, if it gives one. -/
def Event.numbers : Event → Bool
  | .storeChanged _ version _ => version.asInt?.isSome
  | _ => true

/-- A change that numbers gives a document an integer version. -/
theorem Event.asInt?_of_numbers {event : Event} (numbers : event.numbers = true) {uri : String}
    {version : Json} {edits : List Text.Edit}
    (given : (∃ given, event = .changed uri given edits ∧ given.value = version) ∨
      event = .storeChanged uri version edits) :
    ∃ number, version.asInt? = some number := by
  rcases given with ⟨given, _, rfl⟩ | rfl
  · exact asInt?_of_isSendableVersion given.sendable
  · exact Option.isSome_iff_exists.mp numbers

namespace Session

/-- Every stored document is filed under its URI and has an integer version. -/
def Numbered (session : Session) : Prop :=
  ∀ uri document, session.store.get? uri = some document →
    document.uri = uri ∧ ∃ number, document.version.asInt? = some number

private theorem Numbered.step {session : Session} (numbered : session.Numbered) (wired : session.Wired)
    {event : Event} (numbers : event.numbers = true) : (session.step event).Numbered := by
  intro uri document held
  have recorded := wired.recorded event uri
  rw [held] at recorded
  generalize same : some document = stored at recorded
  cases recorded with
  | same => exact numbered uri document same.symm
  | opened text version language =>
    cases same
    exact ⟨rfl, asInt?_of_isSendableVersion version.sendable⟩
  | closed => cases same
  | edited version edits before given stored =>
    cases same
    exact ⟨(numbered uri before stored).1, Event.asInt?_of_numbers numbers given⟩

/-- A version is that of the stored document, or smaller. -/
def Reached (session : Session) (uri : String) (version : Json) : Prop :=
  ∃ document, session.store.get? uri = some document ∧
    (version = document.version ∨ ∃ low high, version.asInt? = some low ∧
      document.version.asInt? = some high ∧ low < high)

/-- A change makes the version of a document greater. -/
theorem Reached.step {session : Session} {uri : String} {version : Json}
    (reached : session.Reached uri version) (wired : session.Wired) (numbered : session.Numbered)
    {event : Event} (numbers : event.numbers = true) (kept : event.renews uri = false) :
    (session.step event).Reached uri version := by
  obtain ⟨document, held, behind⟩ := reached
  have recorded := wired.recorded event uri
  unfold Reached
  generalize (session.step event).store.get? uri = later at recorded ⊢
  cases recorded with
  | same => exact ⟨document, held, behind⟩
  | opened text version language opens wellFormed =>
    subst opens
    simp [Event.renews, Event.opens, wellFormed, Except.isOk, Except.toBool] at kept
  | closed closes =>
    subst closes
    simp [Event.renews, Event.closes] at kept
  | edited newer edits before given stored accepted =>
    obtain rfl := Option.some.inj (stored.symm.trans held)
    obtain ⟨number, current⟩ := (numbered uri before held).2
    obtain ⟨next, given⟩ := Event.asInt?_of_numbers numbers given
    rw [Document.accepts_of_asInt? current given] at accepted
    have grown : number < next := of_decide_eq_true (Except.ok.inj accepted)
    refine ⟨_, rfl, .inr ?_⟩
    rcases behind with rfl | ⟨low, high, seen, known, smaller⟩
    · exact ⟨number, next, current, given, grown⟩
    · rw [current] at known
      cases known
      exact ⟨low, next, seen, given, by omega⟩

/-- Whoever waits with a stored document has seen its version, or a smaller one. -/
def SeenVersions (session : Session) : Prop :=
  ∀ task ∈ session.tasks, (∀ id, task.purpose ≠ .settings id) → ∀ request version,
    task.stage = .waiting request .stored version → session.Reached task.uri version

/-- A task sees the stored version at its first turn. -/
theorem Sees.reached {session : Session} {task : Task} {version : Json}
    (sees : session.Sees task version) (needs : ∀ id, task.purpose ≠ .settings id) :
    session.Reached task.uri version := by
  unfold Sees at sees
  split at sees
  · next id asks => exact absurd asks (needs id)
  · obtain ⟨document, held, rfl⟩ := Option.map_eq_some_iff.mp sees.2
    exact ⟨document, held, .inl rfl⟩

private theorem SeenVersions.step {session : Session} (seen : session.SeenVersions) (wired : session.Wired)
    (numbered : session.Numbered) {event : Event} (numbers : event.numbers = true) :
    (session.step event).SeenVersions := by
  intro task member needs request version waits
  cases wired.stems member with
  | kept held before named same stays untouched =>
    have reached := seen held before (same ▸ needs) request version (stays ▸ waits)
    have kept : event.renews held.uri = false := by
      refine Bool.eq_false_iff.mpr fun renewed => ?_
      obtain ⟨document, stored, _⟩ := reached
      rw [untouched renewed] at stored
      cases stored
    rw [Task.uri, named]
    exact reached.step wired numbered numbers kept
  | withdrawn held document before named same renewed stored moved =>
    rw [waits] at moved
    cases stage : held.stage with
    | created =>
      rw [stage] at moved
      cases moved
    | waiting awaited about known =>
      rw [stage] at moved
      cases about <;> cases moved
  | waits held awaited known before named same starts new sees began =>
    rw [waits] at began
    cases began
    subst starts
    rw [Task.uri, named]
    exact (sees.reached (same ▸ needs)).step wired numbered rfl rfl
  | new created =>
    rw [waits] at created
    cases created

/-- A task takes its turn with a version that the document has, or has had. -/
theorem Takes.reached {session after : Session} {job : Job} {turn : Turn}
    (takes : session.Takes job turn after) (seen : session.SeenVersions)
    (needs : ∀ id, turn.task.purpose ≠ .settings id) (about : turn.subject = .stored) :
    session.Reached turn.task.uri turn.version := by
  cases takes with
  | first task version found new live sees => exact sees.reached needs
  | later task request subject version outcome found waits =>
    rw [show subject = .stored from about] at waits
    exact seen task (mem_of_task? found) needs request version waits

/-- A publication tells of the stored document: its version, and the first findings of the rule in
it, as many as the settings allow. -/
def Reflects (session : Session) (publication : Publication) : Prop :=
  ∃ document settings scan, session.store.get? publication.uri = some document ∧
    publication.version = document.version ∧ session.Grants publication.uri settings ∧
    session.rule.check document = .ok scan ∧
    publication.diagnostics = (scan.findings.take settings.problemLimit).map
      (Diagnostic.ofFinding (showsRelated session.client) publication.uri)

/-- A version that was seen and equals the stored one is the stored one. -/
theorem Reached.eq_of_equals {session : Session} {uri : String} {version : Json}
    {document : Document} (reached : session.Reached uri version)
    (held : session.store.get? uri = some document)
    (same : document.version.equals version = true) : version = document.version := by
  obtain ⟨other, stored, rfl | ⟨low, high, seen, known, smaller⟩⟩ := reached
  · rw [Option.some.inj (stored.symm.trans held)]
  · obtain rfl := Option.some.inj (stored.symm.trans held)
    rw [Json.equals_of_asInt? known seen, decide_eq_true_eq] at same
    omega

private theorem Pushes.reflects {session : Session} {event : Event} {publication : Publication}
    (pushes : session.Pushes event publication) (wired : session.Wired)
    (numbered : session.Numbered) (seen : session.SeenVersions) :
    session.Reflects publication := by
  obtain ⟨job, turn, after, settings, document, _, ready, takes, push, here, looked, about, shown,
    held, same, valid⟩ := pushes
  have reached : session.Reached turn.task.uri turn.version :=
    takes.reached seen (by simp [push]) about
  rw [here, shown] at reached
  obtain ⟨scan, checked, _, _, found⟩ := Rule.validate_eq_ok.mp valid
  refine ⟨document, settings, scan, held, reached.eq_of_equals held same, ?_, checked, ?_⟩
  · rw [← here]
    exact takes.grants (wired.change (.ran job ready)) looked
  · rw [found, (numbered publication.uri document held).1]

/-- What is said in a run. -/
def said (session : Session) (events : List Event) : List Effect :=
  (session.runAll events).outbox.drop session.outbox.length

theorem Wired.said_concat {session : Session} (wired : session.Wired) (events : List Event)
    (event : Event) :
    session.said (events ++ [event]) =
      session.said events ++ (session.runAll events).emitted event := by
  obtain ⟨effects, grown⟩ : ∃ effects, (session.runAll events).outbox = session.outbox ++ effects := by
    refine runAll_induction wired (fun later => ∃ effects, later.outbox = session.outbox ++ effects)
      ⟨[], (List.append_nil _).symm⟩ events ?_
    rintro later event _ wired ⟨effects, grown⟩
    exact ⟨_, by rw [wired.outbox_step, grown, List.append_assoc]⟩
  unfold said
  rw [runAll_concat, (wired.runAll events).outbox_step, grown, List.append_assoc, List.drop_left,
    List.drop_left]

/-- What the pushes of a session rely on: its wiring, integer versions, and that no waiting task has
seen a version that is still to come. -/
structure Fit (session : Session) : Prop where
  wired : session.Wired
  numbered : session.Numbered
  seen : session.SeenVersions

private theorem Fit.fresh (rule : Rule) (hasPlugins : Bool) : (Session.fresh rule hasPlugins).Fit := by
  refine ⟨.fresh rule hasPlugins, ?_, ?_⟩
  · intro uri document held
    cases held
  · intro task member
    cases member

theorem Fit.runAll {session : Session} (fit : session.Fit) {events : List Event}
    (numbers : ∀ event ∈ events, event.numbers = true) : (session.runAll events).Fit := by
  refine runAll_induction fit.wired Fit fit events fun later event member wired fit => ?_
  have given := numbers event member
  exact ⟨wired.step event, fit.numbered.step wired given, fit.seen.step wired fit.numbered given⟩

/-- What is published for a document is the notice that it was closed, or tells of it. -/
theorem Fit.published {session : Session} (fit : session.Fit) {event : Event}
    {publication : Publication} (member : .publish publication ∈ session.emitted event) :
    (event = .closed publication.uri ∧ publication = closeNotice publication.uri) ∨
      session.Reflects publication :=
  (fit.wired.publishes member).imp_right fun pushes =>
    pushes.reflects fit.wired fit.numbered fit.seen

/-- The versions of publications, which are integers, do not decrease. -/
def Ordered (publications : List Publication) : Prop :=
  publications.Pairwise fun first second => ∃ low high, first.version.asInt? = some low ∧
    second.version.asInt? = some high ∧ low ≤ high

/-- An open document has a version that is at least those published so far. -/
def Bounds (session : Session) (uri : String) (publications : List Publication) : Prop :=
  ∃ document number, session.store.get? uri = some document ∧
    document.version.asInt? = some number ∧
    ∀ publication ∈ publications, ∃ low, publication.version.asInt? = some low ∧ low ≤ number

section Window

variable {session : Session} {uri : String} {event : Event}

private theorem Fit.version_of_published (fit : session.Fit) (stays : event.closes uri = false)
    {document : Document} (held : session.store.get? uri = some document) {publication : Publication}
    (member : publication ∈ publicationsFor uri (session.emitted event)) :
    publication.version = document.version := by
  obtain ⟨published, rfl⟩ := mem_publicationsFor.mp member
  rcases fit.published published with ⟨rfl, _⟩ | ⟨other, _, _, stored, same, _⟩
  · simp [Event.closes] at stays
  · rw [same, Option.some.inj (stored.symm.trans held)]

/-- One more event publishes versions that are at least those published before it. -/
theorem Bounds.step {publications : List Publication} (bounds : session.Bounds uri publications)
    (fit : session.Fit) (numbers : event.numbers = true) (kept : event.renews uri = false)
    (ordered : Ordered publications) :
    (session.step event).Bounds uri
        (publications ++ publicationsFor uri (session.emitted event)) ∧
      Ordered (publications ++ publicationsFor uri (session.emitted event)) := by
  obtain ⟨document, number, held, current, bound⟩ := bounds
  have stays : event.closes uri = false := (Bool.or_eq_false_iff.mp kept).2
  have new : ∀ publication ∈ publicationsFor uri (session.emitted event),
      publication.version.asInt? = some number := by
    intro publication member
    rw [fit.version_of_published stays held member, current]
  refine ⟨?_, List.pairwise_append.mpr ⟨ordered, ?_, ?_⟩⟩
  · have reached : session.Reached uri document.version := ⟨document, held, .inl rfl⟩
    obtain ⟨later, stored, grown⟩ := reached.step fit.wired fit.numbered numbers kept
    obtain ⟨next, known, least⟩ : ∃ next, later.version.asInt? = some next ∧ number ≤ next := by
      rcases grown with same | ⟨low, high, seen, known, smaller⟩
      · exact ⟨number, same ▸ current, Int.le_refl number⟩
      · cases current.symm.trans seen
        exact ⟨high, known, by omega⟩
    refine ⟨later, next, stored, known, fun publication member => ?_⟩
    rcases List.mem_append.mp member with before | last
    · obtain ⟨low, version, small⟩ := bound publication before
      exact ⟨low, version, Int.le_trans small least⟩
    · exact ⟨number, new publication last, least⟩
  · refine List.pairwise_of_forall_mem_list fun first here second there => ?_
    exact ⟨number, number, new first here, new second there, Int.le_refl number⟩
  · intro first before second last
    obtain ⟨low, version, small⟩ := bound first before
    exact ⟨low, number, version, new second last, small⟩

/-- A document that was just opened has a version, and nothing was published for it yet. -/
theorem Fit.bounds_opened (fit : session.Fit) (opens : event.opens uri = true) :
    publicationsFor uri (session.emitted event) = [] ∧ (session.step event).Bounds uri [] := by
  constructor
  · apply publicationsFor_eq_nil
    intro publication member _
    rcases fit.wired.publishes member with ⟨rfl, _⟩ | ⟨_, _, _, _, _, rfl, _⟩ <;> cases opens
  · have recorded := fit.wired.recorded event uri
    unfold Bounds
    generalize (session.step event).store.get? uri = later at recorded ⊢
    cases recorded with
    | same kept =>
      rw [Event.renews, opens] at kept
      cases kept
    | opened text version language =>
      obtain ⟨number, given⟩ := asInt?_of_isSendableVersion version.sendable
      exact ⟨_, number, rfl, given, by simp⟩
    | closed closes =>
      subst closes
      cases opens
    | edited version edits document given => rcases given with ⟨_, rfl, _⟩ | rfl <;> cases opens

/-- Between an opening of a document and the next one or its closing, versions do not decrease. -/
theorem Fit.ordered_run (fit : session.Fit) (opens : event.opens uri = true) {during : List Event}
    (numbers : ∀ other ∈ event :: during, other.numbers = true)
    (kept : ∀ other ∈ during, other.renews uri = false) :
    (session.runAll (event :: during)).Bounds uri
        (publicationsFor uri (session.said (event :: during))) ∧
      Ordered (publicationsFor uri (session.said (event :: during))) := by
  induction during using List.reverseRecOn with
  | nil =>
    obtain ⟨silent, bounds⟩ := fit.bounds_opened opens
    change (session.step event).Bounds uri (publicationsFor uri (session.emitted event)) ∧
      Ordered (publicationsFor uri (session.emitted event))
    rw [silent]
    exact ⟨bounds, List.Pairwise.nil⟩
  | append_singleton during last step =>
    have earlier : ∀ other ∈ event :: during, other.numbers = true := by
      intro other member
      exact numbers other (List.mem_append_left [last] member)
    obtain ⟨bounds, ordered⟩ :=
      step earlier fun other member => kept other (List.mem_append_left _ member)
    rw [← List.cons_append, fit.wired.said_concat, runAll_concat, publicationsFor_append]
    exact bounds.step (fit.runAll earlier) (numbers last (by simp)) (kept last (by simp)) ordered

private theorem Wired.absent_closed (wired : session.Wired) (closes : event.closes uri = true) :
    (session.step event).store.get? uri = none := by
  have recorded := wired.recorded event uri
  generalize (session.step event).store.get? uri = later at recorded ⊢
  cases recorded with
  | same kept =>
    rw [Event.renews, closes, Bool.or_true] at kept
    cases kept
  | closed => rfl
  | opened text version language opens =>
    subst opens
    cases closes
  | edited version edits document given => rcases given with ⟨_, rfl, _⟩ | rfl <;> cases closes

private theorem Wired.absent_step (wired : session.Wired) (absent : session.store.get? uri = none)
    (shut : event.opens uri = false) : (session.step event).store.get? uri = none := by
  have recorded := wired.recorded event uri
  generalize (session.step event).store.get? uri = later at recorded ⊢
  cases recorded with
  | same => exact absent
  | opened text version language opens wellFormed =>
    subst opens
    simp [Event.opens, wellFormed, Except.isOk, Except.toBool] at shut
  | closed => rfl
  | edited version edits document given held =>
    rw [absent] at held
    cases held

/-- Between a closing of a document and its next opening, there are only notices that it is closed. -/
theorem Wired.notices_run (wired : session.Wired) (closes : event.closes uri = true)
    {during : List Event} (shut : ∀ other ∈ during, other.opens uri = false) :
    (session.runAll (event :: during)).store.get? uri = none ∧
      ∀ publication ∈ publicationsFor uri (session.said (event :: during)),
        publication = closeNotice uri := by
  induction during using List.reverseRecOn with
  | nil =>
    refine ⟨wired.absent_closed closes, ?_⟩
    intro publication member
    obtain ⟨published, rfl⟩ := mem_publicationsFor.mp member
    rcases wired.publishes published with ⟨_, notice⟩ | ⟨_, _, _, _, _, rfl, _⟩
    · exact notice
    · cases closes
  | append_singleton during last step =>
    obtain ⟨absent, notices⟩ := step fun other member => shut other (List.mem_append_left _ member)
    have later := wired.runAll (event :: during)
    rw [← List.cons_append, runAll_concat, wired.said_concat, publicationsFor_append]
    refine ⟨later.absent_step absent (shut last (by simp)), fun publication member => ?_⟩
    rcases List.mem_append.mp member with before | new
    · exact notices publication before
    · obtain ⟨published, rfl⟩ := mem_publicationsFor.mp new
      rcases later.publishes published with
        ⟨_, notice⟩ | ⟨_, _, _, _, _, _, _, _, _, _, _, _, _, held, _⟩
      · exact notice
      · rw [absent] at held
        cases held

end Window

/-- Whatever is published for a document is the notice that it was closed, or tells of it as it is
stored at that moment. So the versions published between an opening of the document and the next
opening or closing do not decrease, and between a closing and the next opening there are only
notices. -/
theorem pushes_reflect_store (rule : Rule) (hasPlugins : Bool) (before : List Event) (event : Event)
    (during : List Event) (uri : String)
    (numbers : ∀ other ∈ before ++ event :: during, other.numbers = true) :
    (∀ publication, publication.uri = uri →
        .publish publication ∈ ((fresh rule hasPlugins).runAll before).emitted event →
        (event = .closed uri ∧ publication = closeNotice uri) ∨
          ((fresh rule hasPlugins).runAll before).Reflects publication) ∧
      (event.opens uri = true → (∀ other ∈ during, other.renews uri = false) →
        Ordered (publicationsFor uri
          (((fresh rule hasPlugins).runAll before).said (event :: during)))) ∧
      (event.closes uri = true → (∀ other ∈ during, other.opens uri = false) →
        ∀ publication ∈ publicationsFor uri
            (((fresh rule hasPlugins).runAll before).said (event :: during)),
          publication = closeNotice uri) := by
  have fit : ((fresh rule hasPlugins).runAll before).Fit :=
    (Fit.fresh rule hasPlugins).runAll fun other member => numbers other (List.mem_append_left _ member)
  refine ⟨?_, ?_, ?_⟩
  · rintro publication rfl published
    exact fit.published published
  · intro opens kept
    have given := fun other member => numbers other (List.mem_append_right before member)
    exact (fit.ordered_run opens given kept).2
  · intro closes shut
    exact (fit.wired.notices_run closes shut).2

/-- A document is changed after its first push has waited for settings. -/
def changedAfterPush : List Event :=
  let uri := "file:///a.hz"
  [.run (.start ⟨uri, 0⟩), .run (.send ⟨uri, 1⟩), .reply ⟨uri, 1⟩ (.result (.list [.null])),
    .run (.deliver ⟨uri, 1⟩), .run (.resume ⟨uri, 0⟩), .changed uri ⟨.int 2, rfl⟩ [.whole "b"],
    .run (.start ⟨uri, 2⟩)]

theorem changedAfterPush_ordered :
    (∀ other ∈ [Event.handshake { support := { configuration := true } }] ++
        .opened "file:///a.hz" "a" ⟨.int 1, rfl⟩ .null :: changedAfterPush,
      other.numbers = true) ∧
    (∀ other ∈ changedAfterPush, other.renews "file:///a.hz" = false) ∧
    ((publicationsFor "file:///a.hz" (((fresh .null true).runAll
        [.handshake { support := { configuration := true } }]).said
          (.opened "file:///a.hz" "a" ⟨.int 1, rfl⟩ .null :: changedAfterPush))).map
            (·.version) = [.int 1, .int 2]) ∧
    Ordered (publicationsFor "file:///a.hz" (((fresh .null true).runAll
      [.handshake { support := { configuration := true } }]).said
        (.opened "file:///a.hz" "a" ⟨.int 1, rfl⟩ .null :: changedAfterPush))) := by
  have numbers : ∀ other ∈ [Event.handshake { support := { configuration := true } }] ++
      .opened "file:///a.hz" "a" ⟨.int 1, rfl⟩ .null :: changedAfterPush, other.numbers = true := by
    simp [changedAfterPush, Event.numbers]
  have kept : ∀ other ∈ changedAfterPush, other.renews "file:///a.hz" = false := by
    simp [changedAfterPush, Event.renews, Event.opens, Event.closes]
  exact ⟨numbers, kept, rfl,
    (pushes_reflect_store .null true _ _ _ "file:///a.hz" numbers).2.1 rfl kept⟩

end Session

end HazeServer
