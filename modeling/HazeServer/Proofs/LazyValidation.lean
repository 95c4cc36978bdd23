import HazeServer.Proofs.Diagnostic
import HazeServer.Proofs.PluginIsolation
import HazeServer.Proofs.Session.Entries
import Mathlib.Data.List.Forall2

/-! # Lazy validation

A validation asks its rule for one finding after the other and stops at the limit, so that a failure behind
the limit never shows. A failure before it takes all with it: a push then publishes nothing and a pull
reports nothing of the validator, and either logs one error. Otherwise there is a diagnostic for each
finding that was taken.
-/

namespace HazeServer

/-- Asking a scan for findings one by one, until a number of them is reached: what is gathered, and what
is left of the scan. -/
inductive Draws : Nat → Scan → Except Fault (List Finding) → Scan → Prop where
  /-- Who has enough does not ask. -/
  | enough (scan : Scan) : Draws 0 scan (.ok []) scan
  | ended (limit : Nat) : Draws (limit + 1) ⟨[], none⟩ (.ok []) ⟨[], none⟩
  | failed (limit : Nat) (fault : Fault) :
      Draws (limit + 1) ⟨[], some fault⟩ (.error fault) ⟨[], some fault⟩
  | finding {limit : Nat} {rest left : Scan} {gathered : Except Fault (List Finding)} (finding : Finding)
      (draws : Draws limit rest gathered left) :
      Draws (limit + 1) ⟨finding :: rest.findings, rest.failure⟩ (gathered.map (finding :: ·)) left

namespace Scan

private theorem take_cons (finding : Finding) (rest : Scan) (limit : Nat) :
    take ⟨finding :: rest.findings, rest.failure⟩ (limit + 1) = (rest.take limit).map (finding :: ·) := by
  simp only [take, List.length_cons, Nat.add_lt_add_iff_right]
  split
  · cases rest.failure <;> rfl
  · rfl

private theorem taken_cons (finding : Finding) (rest : Scan) (limit : Nat) :
    taken ⟨finding :: rest.findings, rest.failure⟩ (limit + 1) = rest.taken limit + 1 := by
  simp only [taken, List.length_cons]
  omega

/-- The first findings of a scan are those that are there for the asking, and no others are asked for. -/
theorem draws_take (limit : Nat) (scan : Scan) :
    Draws limit scan (scan.take limit) ⟨scan.findings.drop (scan.taken limit), scan.failure⟩ := by
  -- each finding brings the limit one closer and leaves a shorter scan
  induction limit generalizing scan with
  | zero =>
    have none : scan.taken 0 = 0 := Nat.zero_min _
    rw [none]
    exact .enough scan
  | succ limit step =>
    obtain ⟨findings, failure⟩ := scan
    cases findings with
    | nil =>
      cases failure with
      | none => exact .ended limit
      | some fault => exact .failed limit fault
    | cons finding findings =>
      have first := take_cons finding ⟨findings, failure⟩ limit
      have count := taken_cons finding ⟨findings, failure⟩ limit
      simp only at first count
      rw [first, count, List.drop_succ_cons]
      exact .finding finding (step ⟨findings, failure⟩)

private theorem take_eq_error {scan : Scan} {limit : Nat} {fault : Fault} :
    scan.take limit = .error fault ↔ scan.failure = some fault ∧ scan.findings.length < limit := by
  simp only [take]
  split
  · next short => cases scan.failure <;> simp [short]
  · next long => simp [long]

end Scan

/-- The place that is shown for a note: in the document, unless the note has a URI of its own. -/
structure Locates (uri : String) (note : Note) (place : RelatedPlace) : Prop where
  range : place.range = note.range
  message : place.message = note.message
  own : ∀ own, note.uri = some own → own ≠ "" → place.uri = own
  /-- An empty text is no URI. -/
  lacking : note.uri = none ∨ note.uri = some "" → place.uri = uri

/-- The diagnostic that a client is shown for a finding in a document. -/
structure Presents (client : Option ClientSupport) (uri : String) (finding : Finding) (diagnostic : Diagnostic) :
    Prop where
  range : diagnostic.range = finding.range
  message : diagnostic.message = finding.message
  code : diagnostic.code = finding.code
  severity : diagnostic.severity = some (finding.severity.getD .warning)
  source : diagnostic.source = some "haze-ls"
  /-- Related places are shown if there are some, to a client that supports them. -/
  related : diagnostic.related.isSome = true ↔
    finding.related ≠ [] ∧ ∃ support, client = some support ∧ support.related = true
  /-- There is one for each note, in order. -/
  places : ∀ places, diagnostic.related = some places → List.Forall₂ (Locates uri) finding.related places

private theorem locates_relatedPlace (uri : String) (note : Note) :
    Locates uri note (Diagnostic.relatedPlace uri note) := by
  refine ⟨rfl, rfl, ?_, ?_⟩
  · intro own given named
    simp [Diagnostic.relatedPlace, given, named]
  · rintro (absent | blank)
    · simp [Diagnostic.relatedPlace, absent]
    · simp [Diagnostic.relatedPlace, blank]

private theorem presents_ofFinding (client : Option ClientSupport) (uri : String) (finding : Finding) :
    Presents client uri finding (.ofFinding (showsRelated client) uri finding) := by
  refine ⟨rfl, rfl, rfl, rfl, rfl, ?_, ?_⟩
  · simp only [Diagnostic.ofFinding, Diagnostic.relatedPlaces]
    cases client <;> cases finding.related <;> simp [showsRelated]
  · intro places shown
    simp only [Diagnostic.ofFinding, Diagnostic.relatedPlaces] at shown
    split at shown
    · cases shown
      exact List.forall₂_map_right_iff.mpr (List.forall₂_same.mpr fun note _ => locates_relatedPlace uri note)
    · cases shown

/-- What a validation with a limit comes to. -/
structure Lazily (rule : Rule) (client : Option ClientSupport) (limit : Nat) (document : Document)
    (validation : Validation) : Prop where
  /-- It fails if calling the rule does, or asking for a finding before the limit is reached. -/
  fails : ∀ fault, validation.result = .error fault ↔ rule.check document = .error fault ∨
    ∃ scan, rule.check document = .ok scan ∧ scan.failure = some fault ∧ scan.findings.length < limit
  /-- Otherwise there is a diagnostic for each finding taken. -/
  reports : ∀ diagnostics, validation.result = .ok diagnostics → ∃ scan, rule.check document = .ok scan ∧
    diagnostics.length = validation.taken ∧
    List.Forall₂ (Presents client document.uri) (scan.findings.take validation.taken) diagnostics
  /-- The rule is asked for findings one by one, and for none past the limit. -/
  draws : ∀ scan, rule.check document = .ok scan → validation.taken ≤ limit ∧ ∃ gathered,
    Draws limit scan gathered ⟨scan.findings.drop validation.taken, scan.failure⟩ ∧
    validation.result = gathered.map (·.map (.ofFinding (showsRelated client) document.uri))
  /-- A rule that fails when it is called is not asked for any. -/
  untouched : ∀ fault, rule.check document = .error fault → validation.taken = 0

namespace Rule

private theorem validate_of_error {rule : Rule} {document : Document} {fault : Fault}
    (failed : rule.check document = .error fault) (shows : Bool) (limit : Nat) :
    rule.validate shows limit document = ⟨0, .error fault⟩ := by
  simp only [validate, failed]

private theorem validate_of_ok {rule : Rule} {document : Document} {scan : Scan} {limit : Nat}
    (checked : rule.check document = .ok scan) (small : limit ≤ maxScanLimit) (shows : Bool) :
    rule.validate shows limit document =
      ⟨scan.taken limit, (scan.take limit).map (·.map (Diagnostic.ofFinding shows document.uri))⟩ := by
  simp only [validate, checked, if_neg (Nat.not_lt.mpr small)]

private theorem lazily_validate (rule : Rule) (client : Option ClientSupport) {limit : Nat}
    (small : limit ≤ maxScanLimit) (document : Document) :
    Lazily rule client limit document (rule.validate (showsRelated client) limit document) := by
  cases checked : rule.check document with
  | error fault =>
    rw [validate_of_error checked]
    constructor <;> simp [checked]
  | ok scan =>
    rw [validate_of_ok checked small]
    constructor
    · intro fault
      simp only [checked, reduceCtorEq, false_or, Except.ok.injEq, exists_eq_left', ← Scan.take_eq_error]
      cases scan.take limit <;> simp [Except.map]
    · intro diagnostics reported
      cases gathered : scan.take limit with
      | error fault =>
        rw [gathered] at reported
        cases reported
      | ok findings =>
        rw [gathered] at reported
        cases reported
        obtain ⟨-, rfl⟩ := Scan.take_eq_ok.mp gathered
        refine ⟨scan, checked, by simp [Scan.taken], ?_⟩
        simp only [Scan.taken, ← List.take_eq_take_min]
        exact List.forall₂_map_right_iff.mpr (List.forall₂_same.mpr fun finding _ =>
          presents_ofFinding client document.uri finding)
    · intro other same
      obtain rfl := Except.ok.inj (checked.symm.trans same)
      exact ⟨Nat.min_le_left .., _, scan.draws_take limit, rfl⟩
    · intro fault failed
      rw [checked] at failed
      cases failed

end Rule

namespace Session

/-- A job lets a task validate a document with the settings that it has looked up. -/
structure Validating (session : Session) (job : Job) (turn : Turn) (settings : Settings) (document : Document) :
    Prop where
  ready : job ∈ session.ready
  takes : ∃ after, (session.taking job).Takes job turn after
  looked : turn.lookup = .found settings
  about : session.subjectDocument turn.task.uri turn.subject = some document

/-- What validating a document comes to in a session. -/
def validation (session : Session) (settings : Settings) (document : Document) : Validation :=
  session.rule.validate (showsRelated session.client) settings.problemLimit document

/-- What tasks that validate do with the outcome. -/
structure AllOrNothing (session : Session) : Prop where
  /-- A task that has to wait for settings says nothing yet. -/
  waits : ∀ job turn request, job ∈ session.ready → (∃ after, (session.taking job).Takes job turn after) →
    turn.lookup = .waiting request → session.emitted (.run job) = []
  /-- A push or pull takes from the rule what its validation takes, and is over. -/
  ends : ∀ job turn settings document, session.Validating job turn settings document →
    (∀ id, turn.task.purpose ≠ .settings id) →
      (session.step (.run job)).taken = session.taken + (session.validation settings document).taken ∧
        (session.step (.run job)).task? turn.task.ticket = none
  /-- A push that fails logs one error and publishes nothing. -/
  pushFails : ∀ job turn settings document fault, session.Validating job turn settings document →
    turn.task.purpose = .push → (session.validation settings document).result = .error fault →
      session.emitted (.run job) =
        [.log .error ("Validation of " ++ turn.task.uri ++ " failed: " ++ fault.described)]
  /-- Any other publishes all that it found, or nothing if that is out of date or cannot be sent. -/
  pushSucceeds : ∀ job turn settings document diagnostics, session.Validating job turn settings document →
    turn.task.purpose = .push → (session.validation settings document).result = .ok diagnostics →
      session.emitted (.run job) = [.publish ⟨turn.task.uri, turn.version, diagnostics⟩] ∨
        session.emitted (.run job) = []
  /-- A pull that fails logs one error and answers a report without items. -/
  pullFails : ∀ job turn settings document fault id, session.Validating job turn settings document →
    turn.task.purpose = .pull id → (session.validation settings document).result = .error fault →
      session.emitted (.run job) =
        [.log .error ("Diagnostics" ++ " error in " ++ "diagnostics" ++ ": " ++ fault.message),
          .respond turn.task.uri id (.report [])]
  pullSucceeds : ∀ job turn settings document diagnostics id,
    session.Validating job turn settings document → turn.task.purpose = .pull id →
    (session.validation settings document).result = .ok diagnostics →
      session.emitted (.run job) = [.respond turn.task.uri id (.report diagnostics)]

section Turns

variable {session : Session} {job : Job} {turn : Turn} {settings : Settings} {document : Document}

private theorem taken_learn (session : Session) (request : Ticket) (outcome : Outcome) :
    (session.learn request outcome).2.taken = session.taken := by
  cases outcome <;> rfl

/-- Looking up settings takes nothing from the rule. -/
theorem Takes.taken {after : Session} (takes : session.Takes job turn after) (wired : session.Wired) :
    after.taken = session.taken := by
  cases takes with
  | first task =>
    have spec := wired.lookUp task.uri
    generalize (session.lookUp task.uri).1 = lookup at spec
    generalize (session.lookUp task.uri).2 = later at spec ⊢
    cases spec with
    | learned request outcome => exact session.taken_learn request outcome
    | _ => rfl
  | later task request subject version outcome => exact session.taken_learn request outcome

private theorem taken_proceed {task : Task} {subject : Subject} (needs : ∀ id, task.purpose ≠ .settings id)
    (about : session.subjectDocument task.uri subject = some document) (version : Json) (settings : Settings) :
    (session.proceed task subject version (.found settings)).taken =
      session.taken + (session.validation settings document).taken := by
  -- only a task that asks for settings and nothing else goes another way
  have same : session.proceed task subject version (.found settings) =
      (session.validateWith task subject version settings).endTask task := by
    cases purpose : task.purpose with
    | settings id => exact absurd purpose (needs id)
    | _ => simp only [proceed, purpose]
  rw [same, endTask_frame, validateWith, about]
  simp only
  rw [finishValidation_frame]
  rfl

/-- The session in which a validation goes on has the store, the rule and the client as they were. -/
theorem Validating.goesOn (validating : session.Validating job turn settings document) (wired : session.Wired) :
    ∃ after, (session.taking job).Takes job turn after ∧ after.taken = session.taken ∧
      after.subjectDocument turn.task.uri turn.subject = some document ∧
      after.validation settings document = session.validation settings document := by
  obtain ⟨after, takes⟩ := validating.takes
  have taken : (session.taking job).Wired := wired.change (.ran job validating.ready)
  have ground := (takes.onlyAsks taken).ground
  refine ⟨after, takes, takes.taken taken, ?_, ?_⟩
  · rw [← validating.about]
    simp only [subjectDocument, ground.store]
    rfl
  · simp only [validation, ground.rule, ground.client]
    rfl

/-- A task says what its purpose makes of the outcome of its validation. -/
theorem Validating.emitted (validating : session.Validating job turn settings document) (wired : session.Wired)
    (needs : ∀ id, turn.task.purpose ≠ .settings id) :
    ∃ after : Session, session.emitted (.run job) =
      after.resultEffects turn.task turn.subject turn.version (session.validation settings document).result := by
  obtain ⟨after, takes, -, about, same⟩ := validating.goesOn wired
  refine ⟨after, ?_⟩
  rw [takes.emitted validating.ready wired, validating.looked, ← same]
  cases purpose : turn.task.purpose with
  | settings id => exact absurd purpose (needs id)
  | _ => simp only [turnEffects, purpose, about, validation]

private theorem Validating.ends (validating : session.Validating job turn settings document)
    (wired : session.Wired)
    (needs : ∀ id, turn.task.purpose ≠ .settings id) :
    (session.step (.run job)).taken = session.taken + (session.validation settings document).taken ∧
      (session.step (.run job)).task? turn.task.ticket = none := by
  obtain ⟨after, takes, taken, about, same⟩ := validating.goesOn wired
  constructor
  · change (session.run job).taken = _
    rw [session.perform_taking validating.ready, takes.perform_eq, validating.looked,
      taken_proceed needs about, taken, same]
  · rw [takes.task?_step validating.ready wired, validating.looked]

/-- Failures of validations leave nothing half done. -/
theorem Wired.allOrNothing (wired : session.Wired) : session.AllOrNothing := by
  constructor
  · rintro job turn request ready ⟨after, takes⟩ looked
    rw [takes.emitted ready wired, looked]
    rfl
  · exact fun job turn settings document validating needs => validating.ends wired needs
  · intro job turn settings document fault validating push failed
    obtain ⟨after, said⟩ := validating.emitted wired (by simp [push])
    simp only [said, resultEffects, push, failed, pushEffects, validationFailure]
  · intro job turn settings document diagnostics validating push found
    obtain ⟨after, said⟩ := validating.emitted wired (by simp [push])
    simp only [said, resultEffects, push, found, pushEffects]
    split
    · exact .inl rfl
    · exact .inr rfl
  · intro job turn settings document fault id validating pull failed
    obtain ⟨after, said⟩ := validating.emitted wired (by simp [pull])
    simp only [said, resultEffects, pull, failed, pullEffects, pluginFailure, validatorName]
  · intro job turn settings document diagnostics id validating pull found
    obtain ⟨after, said⟩ := validating.emitted wired (by simp [pull])
    simp only [said, resultEffects, pull, found, pullEffects]

end Turns

end Session

namespace PluginSet

/-- What a validator that fails leaves, among other plugins. -/
structure AllOrNothing (set : PluginSet) : Prop where
  /-- The report is that of the other plugins, and one error is logged. -/
  pull : ∀ (less : PluginSet) rule uri document fault, less.Lacks set (.validator rule) →
    set.store.get? uri = some document → set.validate rule document = .error fault →
      DifferBy (.log .error ("Diagnostics" ++ " error in " ++ "diagnostics" ++ ": " ++ fault.message))
        (set.report uri) (less.report uri)
  /-- Nothing is published, and one error is logged. -/
  push : ∀ key rule uri document fault, set.plugins.get? key = some (.validator rule) →
    set.store.get? uri = some document → set.validate rule document = .error fault →
      set.pushEffects ⟨key, uri⟩ =
        [.log .error ("Validation of " ++ document.uri ++ " failed: " ++ fault.described)]

private theorem allOrNothing (set : PluginSet) : set.AllOrNothing := by
  constructor
  · intro less rule uri document fault lacks held failed
    have stored : set.store.contains uri = true := Option.isSome_of_eq_some held
    refine lacks.report stored rfl (.inr ⟨rfl, ?_⟩)
    simp only [held, failed]
  · intro key rule uri document fault registered held failed
    simp only [pushEffects, registered, held, pushed, failed]
    rfl

end PluginSet

/-- A validation asks for no more findings than its limit and fails only if that many cannot be had. If it
fails, neither a push nor a pull shows any of them. -/
theorem validation_all_or_nothing (limit : Nat) (small : limit ≤ maxScanLimit) :
    (∀ rule client document,
        Lazily rule client limit document (rule.validate (showsRelated client) limit document)) ∧
      (∀ rule hasPlugins events, ((Session.fresh rule hasPlugins).runAll events).AllOrNothing) ∧
      ∀ set : PluginSet, set.AllOrNothing := by
  refine ⟨?_, ?_, PluginSet.allOrNothing⟩
  · intro rule client document
    exact rule.lazily_validate client small document
  · intro rule hasPlugins events
    have wired := (Session.Wired.fresh rule hasPlugins).runAll events
    exact wired.allOrNothing

/-- A rule that fails when it is asked for a second finding. -/
def brokenOff : Rule :=
  let first : Finding := { range := ⟨⟨0, 0⟩, ⟨0, 2⟩⟩, message := "first" }
  .scripted (.ok (.failingAt [first] 1 (.reported .runtime "broken off")))

/-- A document is opened, and the client asks for a report on it. -/
def brokenOffRun : List Event :=
  [.handshake {}, .opened "file:///b.hz" "AA" ⟨.int 17, rfl⟩ .null, .ask "file:///b.hz" (.pull (.number 17))]

/-- The turn in which a task for that document validates it. -/
def brokenOffTurn (number : Nat) (purpose : Purpose) : Turn :=
  ⟨⟨⟨"file:///b.hz", number⟩, purpose, .created, false⟩, .stored, .int 17, .found .default⟩

/-- With a limit of one the failure does not show; with the limit in use it is all that shows. -/
theorem brokenOffRun_reports_nothing :
    (∀ document fault, (brokenOff.validate (showsRelated none) 1 document).result ≠ .error fault) ∧
      (∀ document, (brokenOff.validate (showsRelated none) 100 document).result =
        .error (.reported .runtime "broken off")) ∧
      ((Session.fresh brokenOff true).runAll brokenOffRun).emitted (.run (.start ⟨"file:///b.hz", 0⟩)) =
        [.log .error "Validation of file:///b.hz failed: RuntimeError: broken off"] ∧
      ((Session.fresh brokenOff true).runAll brokenOffRun).emitted (.run (.start ⟨"file:///b.hz", 1⟩)) =
        [.log .error "Diagnostics error in diagnostics: broken off",
          .respond "file:///b.hz" (.number 17) (.report [])] := by
  have hidden := (validation_all_or_nothing 1 (by decide)).1 brokenOff none
  have shown := (validation_all_or_nothing 100 (by decide)).1 brokenOff none
  have whole := (validation_all_or_nothing 100 (by decide)).2.1 brokenOff true brokenOffRun
  refine ⟨?_, ?_, ?_, ?_⟩
  · intro document fault failed
    obtain refused | ⟨scan, checked, _, short⟩ := ((hidden document).fails fault).mp failed
    · cases refused
    · cases checked
      exact absurd short (by decide)
  · intro document
    exact ((shown document).fails _).mpr (.inr ⟨_, rfl, rfl, by decide⟩)
  · exact whole.pushFails _ (brokenOffTurn 0 .push) .default ⟨"file:///b.hz", .int 17, .null, "AA", .utf16⟩ _
      ⟨by decide, ⟨_, .first _ _ rfl rfl rfl ⟨rfl, rfl⟩⟩, rfl, rfl⟩ rfl rfl
  · exact whole.pullFails _ (brokenOffTurn 1 (.pull (.number 17))) .default
      ⟨"file:///b.hz", .int 17, .null, "AA", .utf16⟩ _ _
      ⟨by decide, ⟨_, .first _ _ rfl rfl rfl ⟨rfl, rfl⟩⟩, rfl, rfl⟩ rfl rfl

end HazeServer
