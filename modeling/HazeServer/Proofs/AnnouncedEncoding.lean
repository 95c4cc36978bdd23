import HazeServer.Proofs.Handshake
import HazeServer.Proofs.Session.Bystanders

/-! # The announced encoding

The answer to a handshake announces the encoding in which positions are counted. Every answer names the
encoding that its own client asked for, while documents are edited in the one that the first answer
announced. The two are the same as long as no later client asks for another encoding; after that
positions are not read as they were announced.
-/

namespace HazeServer

/-- The encoding that an answer announces. -/
def Answer.encoding? : Answer → Option Text.Encoding
  | .announced capabilities => (capabilities.toJson.member? "positionEncoding").bind encodingOfItem?
  | _ => none

/-- The encodings that the clients of a run ask for, one after the other. -/
def wantedEncodings (events : List Event) : List Text.Encoding :=
  (events.filterMap Event.greeter?).map (·.encoding)

namespace Session

/-- The encodings announced during a run, in the order of the answers. -/
def announcements : Session → List Event → List Text.Encoding
  | _, [] => []
  | session, event :: rest =>
      (session.handle event).1.encoding?.toList ++ (session.step event).announcements rest

/-- A document is open, and every change that it takes is made with positions counted in an encoding. -/
def EditedIn (session : Session) (uri : String) (encoding : Text.Encoding) : Prop :=
  ∃ document, session.store.get? uri = some document ∧ document.encoding = encoding ∧
    ∀ version edits, document.accepts version.value = .ok true →
      ((session.step (.changed uri version edits)).store.get? uri).map (·.text) =
        some (Text.applyEdits encoding document.text edits)

section Announcing

private theorem wantedEncodings_append (first second : List Event) :
    wantedEncodings (first ++ second) = wantedEncodings first ++ wantedEncodings second := by
  simp [wantedEncodings]

private theorem encoding?_announced (support : ClientSupport) (encoding : Text.Encoding) :
    (Answer.announced ((ServerCapabilities.offered encoding).negotiate support)).encoding? =
      some encoding := by
  unfold ServerCapabilities.negotiate ServerCapabilities.negotiatedWorkspace
  cases support.folders <;> cases encoding <;> rfl

private theorem encoding?_attempt (session : Session) (result : Except Fault Session) :
    (session.attempt result).1.encoding? = none := by
  cases result <;> rfl

/-- Only a handshake is answered with an encoding, and that is the one its client asked for. -/
theorem encoding?_handle (session : Session) (event : Event) :
    (session.handle event).1.encoding? = event.greeter?.map (·.encoding) := by
  cases event with
  | handshake client => exact encoding?_announced _ client.encoding
  | opened uri text version language => exact encoding?_attempt session _
  | changed uri version edits => exact encoding?_attempt session _
  | configured payload =>
    simp only [handle, configure]
    split
    · rfl
    · split
      · rfl
      · split <;> rfl
  | resolve item =>
    simp only [handle, resolve]
    split <;> rfl
  | ask uri purpose answered =>
    simp only [handle, ask]
    split <;> rfl
  | storeChanged uri version edits =>
    simp only [handle]
    split <;> rfl
  | evict uri =>
    simp only [handle]
    split <;> rfl
  | _ => rfl

/-- The answers of a run announce what the clients asked for, one after the other. -/
theorem announcements_eq (session : Session) (events : List Event) :
    session.announcements events = wantedEncodings events := by
  induction events generalizing session with
  | nil => rfl
  | cons event rest step =>
    rw [announcements, encoding?_handle, step, wantedEncodings, wantedEncodings, List.filterMap_cons]
    cases event.greeter? <;> rfl

/-- The store has the encoding that the first answer announced. -/
theorem encoding_runAll (rule : Rule) (hasPlugins : Bool) (events : List Event) :
    ((fresh rule hasPlugins).runAll events).store.encoding =
      ((fresh rule hasPlugins).announcements events).head? := by
  rw [(introduced_runAll rule hasPlugins events).encoding, announcements_eq, wantedEncodings,
    List.head?_map, List.head?_filterMap]
  rfl

end Announcing

section Editing

variable {session : Session} {uri : String} {document : Document}

/-- A change that its document takes is made in the encoding of the document. -/
theorem stored_changed (held : session.store.get? uri = some document) {version : Version}
    (accepted : document.accepts version.value = .ok true) (edits : List Text.Edit) :
    (session.step (.changed uri version edits)).store.get? uri =
      some (document.edited version.value edits) := by
  rw [step_changed_eq, Store.changed_of_accepts held accepted]
  dsimp only
  rw [(moves_changed _ uri version edits).any.sameGround.store, Store.get?_updated_self]

theorem editedIn_of_stored (held : session.store.get? uri = some document) :
    session.EditedIn uri document.encoding := by
  refine ⟨document, held, rfl, fun version edits accepted => ?_⟩
  rw [stored_changed held accepted]
  rfl

private theorem EditedIn.unique {first second : Text.Encoding} (edited : session.EditedIn uri first)
    (too : session.EditedIn uri second) : first = second := by
  obtain ⟨document, held, rfl, _⟩ := edited
  obtain ⟨other, also, rfl, _⟩ := too
  rw [held] at also
  cases also
  rfl

private theorem editedIn_opened (session : Session) (wellFormed : Uri.check uri = .ok ()) (text : String)
    (version : Version) (language : Json) :
    (session.step (.opened uri text version language)).EditedIn uri
      (session.store.encoding.getD .utf16) := by
  have stored : (session.step (.opened uri text version language)).store.get? uri =
      some (session.store.newDocument uri text version.value language) := by
    rw [(session.moves_opened uri text version language wellFormed).any.sameGround.store]
    exact session.store.get?_updated_self uri _
  exact editedIn_of_stored stored

/-- As long as it is neither opened anew nor closed, a document keeps its encoding. -/
theorem Wired.editedIn_step (wired : session.Wired) {event : Event} (kept : event.renews uri = false)
    {encoding : Text.Encoding} (edited : session.EditedIn uri encoding) :
    (session.step event).EditedIn uri encoding := by
  obtain ⟨document, held, rfl, _⟩ := edited
  have recorded := wired.recorded event uri
  generalize after : (session.step event).store.get? uri = stored at recorded
  cases recorded with
  | same => exact editedIn_of_stored (after.trans held)
  | opened text version language opens wellFormed =>
    subst opens
    simp [Event.renews, Event.opens, wellFormed, Except.isOk, Except.toBool] at kept
  | closed closes =>
    subst closes
    simp [Event.renews, Event.closes] at kept
  | edited version edits other given also accepted =>
    rw [held] at also
    cases also
    exact (editedIn_of_stored after :)

private theorem Wired.editedIn_runAll (wired : session.Wired) {events : List Event}
    (kept : ∀ event ∈ events, event.renews uri = false) {encoding : Text.Encoding}
    (edited : session.EditedIn uri encoding) : (session.runAll events).EditedIn uri encoding :=
  runAll_induction wired (·.EditedIn uri encoding) edited events
    fun _ event member wired held => wired.editedIn_step (kept event member) held

end Editing

/-- A document that is opened after a handshake is edited in the encoding that the first answer
announced. It is edited in the encoding that the latest answer announced exactly if the latest client
asked for the same one as the first. -/
theorem edited_as_first_announced (rule : Rule) (hasPlugins : Bool) {run before after : List Event}
    {uri text : String} {version : Version} {language : Json}
    (course : run = before ++ .opened uri text version language :: after)
    (announced : (fresh rule hasPlugins).announcements before ≠ [])
    (wellFormed : Uri.check uri = .ok ()) (kept : ∀ event ∈ after, event.renews uri = false) :
    (∃ first, ((fresh rule hasPlugins).announcements run).head? = some first ∧
        ((fresh rule hasPlugins).runAll run).EditedIn uri first) ∧
      ((∃ latest, ((fresh rule hasPlugins).announcements run).getLast? = some latest ∧
          ((fresh rule hasPlugins).runAll run).EditedIn uri latest) ↔
        (wantedEncodings run).getLast? = (wantedEncodings run).head?) := by
  subst course
  rw [announcements_eq] at announced
  obtain ⟨first, more, wanted⟩ := List.exists_cons_of_ne_nil announced
  have chosen : ((fresh rule hasPlugins).runAll before).store.encoding = some first := by
    rw [encoding_runAll, announcements_eq, wanted]
    rfl
  have edited : ((fresh rule hasPlugins).runAll
      (before ++ .opened uri text version language :: after)).EditedIn uri first := by
    have wired := (Wired.fresh rule hasPlugins).runAll before
    have opened := editedIn_opened ((fresh rule hasPlugins).runAll before) wellFormed text version language
    rw [chosen] at opened
    rw [runAll_append]
    exact (wired.step _).editedIn_runAll kept opened
  have head : (wantedEncodings (before ++ .opened uri text version language :: after)).head? =
      some first := by
    rw [wantedEncodings_append, wanted]
    rfl
  rw [announcements_eq, head]
  refine ⟨⟨first, rfl, edited⟩, ?_, ?_⟩
  · rintro ⟨latest, last, too⟩
    rw [last, too.unique edited]
  · intro last
    exact ⟨first, last, edited⟩

/-- Two clients introduce themselves, and the second asks for another encoding. -/
def twoClients : List Event :=
  [.handshake {}, .handshake { encoding := .utf8 }]

/-- After that a document is opened. -/
def secondClientRun : List Event :=
  twoClients ++ [.opened "file:///a.hz" "éx" ⟨.int 11, rfl⟩ .null]

/-- A place after two units is the end of the text, and not the place after its first character. -/
theorem secondClientRun_misread :
    (fresh .null true).announcements secondClientRun = [.utf16, .utf8] ∧
      ((fresh .null true).runAll secondClientRun).EditedIn "file:///a.hz" .utf16 ∧
      ¬ ((fresh .null true).runAll secondClientRun).EditedIn "file:///a.hz" .utf8 ∧
      Text.applyEdits .utf16 "éx" [.part ⟨⟨0, 2⟩, ⟨0, 2⟩⟩ "Z"] = "éxZ" ∧
      Text.applyEdits .utf8 "éx" [.part ⟨⟨0, 2⟩, ⟨0, 2⟩⟩ "Z"] = "éZx" := by
  have course : secondClientRun = twoClients ++ [_] := rfl
  have answered : (fresh .null true).announcements twoClients ≠ [] := by decide
  obtain ⟨⟨first, head, edited⟩, agrees⟩ :=
    edited_as_first_announced .null true course answered rfl (by simp)
  cases head
  refine ⟨rfl, edited, fun misread => ?_, rfl, rfl⟩
  have wanted := agrees.mp ⟨.utf8, rfl, misread⟩
  cases wanted

end Session

end HazeServer
