import HazeServer.Proofs.Document.Store
import HazeServer.Proofs.Document.Version
import Mathlib.Data.List.Induction

/-! # The store as its history tells it

What the store holds after any calls can be said without following it call by call. A document is open
if the last call that opened or closed it opened it. Since then each change has asked for a version; the
document has the greatest version there was, and its text has the edits of those changes that went
beyond all versions before them. The store lists the open documents in the order of the calls that
found them not open.
-/

namespace HazeServer

/-- A change that is asked for: the version it leads to, and its edits. -/
structure Revision where
  version : Int
  edits : List Text.Edit

/-- A call that may change the store. -/
inductive StoreCall where
  | opening (uri text : String) (version : Option Int) (language : Json)
  | changing (uri : String) (revision : Revision)
  | closing (uri : String)

/-- A version as documents keep it. -/
def Json.ofVersion : Option Int → Json
  | none => .null
  | some number => .int number

namespace StoreCall

/-- The document that a call is about. -/
def uri : StoreCall → String
  | .opening uri .. | .changing uri _ | .closing uri => uri

/-- Whether a call opens a document; one whose URI is not well-formed is refused. -/
def opens (uri : String) : StoreCall → Bool
  | .opening named .. => named = uri ∧ (Uri.check named).isOk
  | _ => false

/-- Whether a call closes a document. -/
def closes (uri : String) : StoreCall → Bool
  | .closing named => named = uri
  | _ => false

/-- Whether a call opens or closes a document. -/
def renews (uri : String) (call : StoreCall) : Bool :=
  call.opens uri || call.closes uri

/-- The change of a document that a call asks for. -/
def revision? (uri : String) : StoreCall → Option Revision
  | .changing named revision => if named = uri then some revision else none
  | _ => none

end StoreCall

namespace Store

/-- The store after an operation that may be refused. -/
def after (store : Store) : Except Fault Store → Store
  | .ok later => later
  | .error _ => store

/-- The store after a call. -/
def apply (store : Store) : StoreCall → Store
  | .opening uri text version language => store.after (store.opened uri text (.ofVersion version) language)
  | .changing uri revision =>
      store.after ((store.changed uri (.int revision.version) revision.edits).map (·.1))
  | .closing uri => store.closed uri

/-- The store after some calls. -/
def applyAll (store : Store) (calls : List StoreCall) : Store :=
  calls.foldl apply store

end Store

/-- The course of an open document: what it was opened with, and the changes asked for since. -/
structure Course where
  text : String
  version : Option Int
  language : Json
  revisions : List Revision

namespace Course

/-- All versions that a document was given. -/
def versions (course : Course) : List Int :=
  course.version.toList ++ course.revisions.map (·.version)

/-- Whether a change goes beyond all versions so far. -/
def admits (course : Course) (revision : Revision) : Bool :=
  course.versions.all (· < revision.version)

/-- The course up to one of its changes. -/
def upTo (course : Course) (index : Nat) : Course :=
  { course with revisions := course.revisions.take index }

/-- The changes that went beyond all versions before them. -/
def made (course : Course) : List Revision :=
  (course.revisions.zipIdx.filter fun (revision, index) => (course.upTo index).admits revision).map (·.1)

/-- The record that a course leads to. -/
def record (course : Course) (encoding : Text.Encoding) (uri : String) : Document where
  uri
  version := .ofVersion course.versions.max?
  language := course.language
  text := Text.applyEdits encoding course.text (course.made.flatMap (·.edits))
  encoding

/-- The course after another change was asked for. -/
def extend (course : Course) (revision : Revision) : Course :=
  { course with revisions := course.revisions ++ [revision] }

end Course

/-- The course of a document since it was last opened, if it was not closed after that. -/
def courseOf (uri : String) (calls : List StoreCall) : Option Course :=
  match calls.reverse.find? (·.renews uri) with
  | some (.opening _ text version language) =>
      some ⟨text, version, language,
        (calls.reverse.takeWhile (!·.renews uri)).reverse.filterMap (·.revision? uri)⟩
  | _ => none

/-- Whether a call of a history opened a document that was not open, and that was not closed since. -/
def founds (calls : List StoreCall) (index : Nat) (call : StoreCall) : Bool :=
  call.opens call.uri && (courseOf call.uri (calls.take index)).isNone &&
    (calls.drop (index + 1)).all (!·.closes call.uri)

/-- The open documents, in the order of the calls that found them not open. -/
def foundings (calls : List StoreCall) : List String :=
  (calls.zipIdx.filter fun (call, index) => founds calls index call).map (·.1.uri)

section Courses

variable (course : Course) (revision : Revision)

private theorem Course.versions_extend :
    (course.extend revision).versions = course.versions ++ [revision.version] := by
  simp [versions, extend]

private theorem Course.upTo_extend {index : Nat} (within : index ≤ course.revisions.length) :
    (course.extend revision).upTo index = course.upTo index := by
  simp [upTo, extend, List.take_append_of_le_length within]

/-- A change is made if it goes beyond what was there, whatever comes after it. -/
theorem Course.made_extend :
    (course.extend revision).made =
      course.made ++ if course.admits revision then [revision] else [] := by
  -- what a change has to exceed stands before it, so the new change decides about itself only
  have earlier : (course.revisions.zipIdx.filter fun (held, index) =>
      ((course.extend revision).upTo index).admits held) =
      course.revisions.zipIdx.filter fun (held, index) => (course.upTo index).admits held := by
    apply List.filter_congr
    rintro ⟨held, index⟩ member
    have within := (List.mem_zipIdx member).2.1
    simp only
    rw [course.upTo_extend revision (by omega)]
  have last : (course.extend revision).upTo course.revisions.length = course := by
    rw [course.upTo_extend revision (Nat.le_refl _)]
    simp [upTo]
  unfold made
  rw [show (course.extend revision).revisions = course.revisions ++ [revision] from rfl,
    List.zipIdx_append, List.filter_append, List.map_append, earlier]
  congr 1
  simp only [Nat.zero_add, List.zipIdx_cons, List.zipIdx_nil, List.filter_cons, List.filter_nil, last]
  split <;> rfl

theorem Course.admits_iff :
    course.admits revision = true ↔ ∀ version ∈ course.versions, version < revision.version := by
  simp [admits]

/-- The greatest version is that of the last change that was made. -/
theorem Course.max?_versions_extend :
    (course.extend revision).versions.max? =
      if course.admits revision then some revision.version else course.versions.max? := by
  rw [versions_extend]
  split
  · next admitted =>
    have beyond := (course.admits_iff revision).mp admitted
    rw [List.max?_eq_some_iff]
    constructor
    · simp
    · intro version member
      rcases List.mem_append.mp member with earlier | last
      · exact Int.le_of_lt (beyond version earlier)
      · exact Int.le_of_eq (List.mem_singleton.mp last)
  · next refused =>
    rw [admits_iff] at refused
    obtain ⟨version, held, reached⟩ : ∃ version ∈ course.versions, ¬ version < revision.version := by
      simpa using refused
    obtain ⟨greatest, same⟩ : ∃ greatest, course.versions.max? = some greatest :=
      Option.isSome_iff_exists.mp (List.isSome_max?_of_mem held)
    obtain ⟨member, bound⟩ := List.max?_eq_some_iff.mp same
    rw [same, List.max?_eq_some_iff]
    constructor
    · exact List.mem_append_left _ member
    · intro other listed
      rcases List.mem_append.mp listed with earlier | last
      · exact bound other earlier
      · rw [List.mem_singleton.mp last]
        exact Int.le_trans (Int.not_lt.mp reached) (bound version held)

theorem Course.record_extend (encoding : Text.Encoding) (uri : String) :
    (course.extend revision).record encoding uri =
      if course.admits revision then
        (course.record encoding uri).edited (.int revision.version) revision.edits
      else course.record encoding uri := by
  unfold record
  rw [made_extend, max?_versions_extend]
  split
  · simp only [Document.edited, Text.applyEdits, List.flatMap_append, List.foldl_append,
      List.flatMap_singleton]
    rfl
  · rw [List.append_nil]
    rfl

private theorem Course.record_new (text : String) (version : Option Int) (language : Json)
    (encoding : Text.Encoding) (uri : String) :
    Course.record ⟨text, version, language, []⟩ encoding uri =
      { uri, version := .ofVersion version, language, text, encoding } := by
  cases version <;> rfl

/-- A document takes exactly the changes that its course admits. -/
theorem Course.accepts_record (encoding : Text.Encoding) (uri : String) :
    (course.record encoding uri).accepts (.int revision.version) = .ok (course.admits revision) := by
  cases same : course.versions.max? with
  | none =>
    have unversioned : (course.record encoding uri).version = .null := by
      unfold record
      rw [same]
      rfl
    have empty : course.versions = [] := List.max?_eq_none_iff.mp same
    simp [Document.accepts, unversioned, Json.isNull, admits, empty]
  | some greatest =>
    have versioned : (course.record encoding uri).version.asInt? = some greatest := by
      unfold record
      rw [same]
      rfl
    obtain ⟨member, bound⟩ := List.max?_eq_some_iff.mp same
    have given : (Json.int revision.version).asInt? = some revision.version := rfl
    rw [Document.accepts_of_asInt? versioned given]
    congr 1
    rw [Bool.eq_iff_iff, decide_eq_true_eq, admits_iff]
    constructor
    · intro beyond version held
      exact Int.lt_of_le_of_lt (bound version held) beyond
    · exact fun beyond => beyond greatest member

end Courses

section Histories

variable (uri : String) (calls : List StoreCall) {call : StoreCall}

/-- What a call makes of a document that it opens or closes. -/
def StoreCall.course? : StoreCall → Option Course
  | .opening _ text version language => some ⟨text, version, language, []⟩
  | _ => none

theorem courseOf_concat_renews (renewed : call.renews uri = true) :
    courseOf uri (calls ++ [call]) = call.course? := by
  rw [courseOf, List.reverse_concat, List.find?_cons_of_pos renewed,
    List.takeWhile_cons_of_neg (by simp [renewed])]
  cases call <;> rfl

/-- A call that neither opens nor closes a document leaves its course, or adds a change to it. -/
theorem courseOf_concat (kept : call.renews uri = false) :
    courseOf uri (calls ++ [call]) =
      match call.revision? uri with
      | some revision => (courseOf uri calls).map (·.extend revision)
      | none => courseOf uri calls := by
  rw [courseOf, List.reverse_concat, List.find?_cons_of_neg (by simp [kept]),
    List.takeWhile_cons_of_pos (by simp [kept]), List.reverse_cons, List.filterMap_append]
  cases revised : call.revision? uri with
  | none => simp [courseOf, revised]
  | some revision =>
    simp only [courseOf, List.filterMap_cons, revised, List.filterMap_nil]
    cases calls.reverse.find? (·.renews uri) with
    | none => rfl
    | some last => cases last <;> rfl

private theorem founds_concat {index : Nat} (within : index < calls.length) (held last : StoreCall) :
    founds (calls ++ [last]) index held = (founds calls index held && !last.closes held.uri) := by
  unfold founds
  rw [List.take_append_of_le_length (by omega), List.drop_append_of_le_length (by omega),
    List.all_append, List.all_cons, List.all_nil, Bool.and_true, Bool.and_assoc, Bool.and_assoc,
    Bool.and_assoc]

private theorem founds_last (call : StoreCall) :
    founds (calls ++ [call]) calls.length call =
      (call.opens call.uri && (courseOf call.uri calls).isNone) := by
  simp [founds]

/-- A call adds the document that it opens and finds not open, and takes away the one it closes. -/
theorem foundings_concat (call : StoreCall) :
    foundings (calls ++ [call]) =
      (foundings calls).filter (!call.closes ·) ++
        if call.opens call.uri && (courseOf call.uri calls).isNone then [call.uri] else [] := by
  -- of an earlier call only what comes after it can change: the new call may close its document
  have earlier : (calls.zipIdx.filter fun (held, index) => founds (calls ++ [call]) index held) =
      (calls.zipIdx.filter fun (held, index) => founds calls index held).filter
        fun (held, _) => !call.closes held.uri := by
    rw [List.filter_filter]
    apply List.filter_congr
    rintro ⟨held, index⟩ member
    have within := (List.mem_zipIdx member).2.1
    simp only
    rw [founds_concat calls (by omega), Bool.and_comm]
  unfold foundings
  rw [List.zipIdx_append, List.filter_append, List.map_append, earlier, List.filter_map]
  congr 1
  simp only [Nat.zero_add, List.zipIdx_cons, List.zipIdx_nil, List.filter_cons, List.filter_nil,
    founds_last]
  split <;> rfl

end Histories

section Following

variable {store : Store} {encoding : Option Text.Encoding} {calls : List StoreCall}

/-- A store holds what a history tells. -/
structure Store.Follows (store : Store) (encoding : Option Text.Encoding) (calls : List StoreCall) :
    Prop where
  chosen : store.encoding = encoding
  /-- The open documents are those that were opened last, with the records of their courses. -/
  records : ∀ uri, store.get? uri = (courseOf uri calls).map (·.record (encoding.getD .utf16) uri)
  /-- They are listed in the order in which they were found not open. -/
  order : store.uris = foundings calls

namespace Store

theorem apply_opening (uri text : String) (version : Option Int) (language : Json) :
    store.apply (.opening uri text version language) =
      match Uri.check uri with
      | .ok _ => store.updated uri (store.newDocument uri text (.ofVersion version) language)
      | .error _ => store := by
  simp only [apply, opened]
  cases Uri.check uri <;> rfl

/-- A call about another document leaves a document alone. -/
theorem get?_apply_of_ne (store : Store) {call : StoreCall} {uri : String} (other : call.uri ≠ uri) :
    (store.apply call).get? uri = store.get? uri := by
  cases call with
  | opening named text version language =>
    rw [apply_opening]
    cases Uri.check named with
    | error fault => rfl
    | ok _ => exact (store.get?_updated named uri _).trans (if_neg (Ne.symm other))
  | changing named revision =>
    simp only [Store.apply]
    rcases store.changed_cases named (.int revision.version) revision.edits with
      ⟨fault, same⟩ | same | ⟨document, _, _, same⟩ <;> rw [same]
    · rfl
    · rfl
    · exact (store.get?_updated named uri _).trans (if_neg (Ne.symm other))
  | closing named => exact (store.get?_closed named uri).trans (if_neg (Ne.symm other))

/-- A call about another document leaves the course of a document alone. -/
theorem courseOf_concat_of_ne {call : StoreCall} {uri : String} (other : call.uri ≠ uri) :
    courseOf uri (calls ++ [call]) = courseOf uri calls := by
  cases call with
  | opening named text version language =>
    rw [courseOf_concat uri calls]
    · rfl
    · simp [StoreCall.renews, StoreCall.opens, StoreCall.closes, show named ≠ uri from other]
  | changing named revision =>
    rw [courseOf_concat uri calls rfl]
    simp [StoreCall.revision?, show named ≠ uri from other]
  | closing named =>
    rw [courseOf_concat uri calls]
    · rfl
    · simp [StoreCall.renews, StoreCall.opens, StoreCall.closes, show named ≠ uri from other]

/-- It is enough to look at the record of the document that a call is about. -/
theorem Follows.apply {call : StoreCall} (follows : store.Follows encoding calls)
    (chosen : (store.apply call).encoding = store.encoding)
    (recorded : (store.apply call).get? call.uri =
      (courseOf call.uri (calls ++ [call])).map (·.record (encoding.getD .utf16) call.uri))
    (listed : (store.apply call).uris = foundings (calls ++ [call])) :
    (store.apply call).Follows encoding (calls ++ [call]) := by
  refine ⟨chosen.trans follows.chosen, fun uri => ?_, listed⟩
  by_cases here : call.uri = uri
  · exact here ▸ recorded
  · rw [store.get?_apply_of_ne here, courseOf_concat_of_ne here]
    exact follows.records uri

private theorem Follows.opening (follows : store.Follows encoding calls) (uri text : String)
    (version : Option Int) (language : Json) :
    (store.apply (.opening uri text version language)).Follows encoding
      (calls ++ [.opening uri text version language]) := by
  have kept (held : List String) :
      held.filter (!(StoreCall.opening uri text version language).closes ·) = held := by
    simp [StoreCall.closes]
  cases wellFormed : Uri.check uri with
  | error fault =>
    have refused : store.apply (.opening uri text version language) = store := by
      rw [apply_opening, wellFormed]
    have unopened : (StoreCall.opening uri text version language).opens uri = false := by
      simp [StoreCall.opens, wellFormed, Except.isOk, Except.toBool]
    apply follows.apply
    · rw [refused]
    · rw [refused, courseOf_concat]
      · exact follows.records uri
      · rw [StoreCall.renews, StoreCall.uri, unopened]
        rfl
    · rw [refused, foundings_concat, kept, StoreCall.uri, unopened]
      exact follows.order.trans (List.append_nil _).symm
  | ok _ =>
    have stored : store.apply (.opening uri text version language) =
        store.updated uri (store.newDocument uri text (.ofVersion version) language) := by
      rw [apply_opening, wellFormed]
    have opens : (StoreCall.opening uri text version language).opens uri = true := by
      simp [StoreCall.opens, wellFormed, Except.isOk, Except.toBool]
    apply follows.apply
    · rw [stored]
      rfl
    · have renewed : (StoreCall.opening uri text version language).renews uri = true := by
        rw [StoreCall.renews, opens, Bool.true_or]
      rw [stored, StoreCall.uri, get?_updated, if_pos rfl, courseOf_concat_renews uri calls renewed]
      change some (store.newDocument uri text (.ofVersion version) language) =
        some (Course.record ⟨text, version, language, []⟩ (encoding.getD .utf16) uri)
      rw [newDocument, follows.chosen, Course.record_new]
    · rw [stored, uris_updated, foundings_concat, kept, StoreCall.uri, opens, follows.records uri,
        follows.order]
      cases courseOf uri calls with
      | none => rfl
      | some course => exact (List.append_nil _).symm

/-- Whether a change is made or ignored is decided by the course of its document. -/
theorem Follows.changed_cases (follows : store.Follows encoding calls) (uri : String)
    (revision : Revision) :
    ((courseOf uri calls).any (·.admits revision) = false ∧
        store.changed uri (.int revision.version) revision.edits = .ok (store, none)) ∨
      ∃ course, courseOf uri calls = some course ∧ course.admits revision = true ∧
        store.changed uri (.int revision.version) revision.edits =
          .ok (store.updated uri ((course.extend revision).record (encoding.getD .utf16) uri),
            some ((course.extend revision).record (encoding.getD .utf16) uri)) := by
  have held := follows.records uri
  cases present : courseOf uri calls with
  | none =>
    rw [present] at held
    refine .inl ⟨rfl, ?_⟩
    simp only [Store.changed, change?, held, Option.map_none]
    rfl
  | some course =>
    rw [present] at held
    simp only [Store.changed, change?, held, Option.map_some, course.accepts_record]
    cases admitted : course.admits revision with
    | false => exact .inl ⟨admitted, rfl⟩
    | true =>
      refine .inr ⟨course, rfl, admitted, ?_⟩
      simp only [course.record_extend, admitted]
      rfl

private theorem Follows.changing (follows : store.Follows encoding calls) (uri : String)
    (revision : Revision) :
    (store.apply (.changing uri revision)).Follows encoding (calls ++ [.changing uri revision]) := by
  have held := follows.records uri
  have asked : courseOf uri (calls ++ [.changing uri revision]) =
      (courseOf uri calls).map (·.extend revision) := by
    rw [courseOf_concat uri calls rfl, StoreCall.revision?, if_pos rfl]
  have order : foundings (calls ++ [.changing uri revision]) = store.uris := by
    rw [foundings_concat, follows.order]
    simp [StoreCall.closes, StoreCall.opens]
  rcases follows.changed_cases uri revision with ⟨stale, changed⟩ | ⟨course, present, _, changed⟩
  · have same : store.apply (.changing uri revision) = store := by
      simp only [Store.apply, changed]
      rfl
    apply follows.apply
    · rw [same]
    · rw [same, StoreCall.uri, asked, held]
      cases present : courseOf uri calls with
      | none => rfl
      | some course =>
        have refused : course.admits revision = false := by simpa [present] using stale
        rw [Option.map_some, Option.map_some, Option.map_some, course.record_extend, refused]
        rfl
    · rw [same, order]
  · have stored : store.apply (.changing uri revision) =
        store.updated uri ((course.extend revision).record (encoding.getD .utf16) uri) := by
      simp only [Store.apply, changed]
      rfl
    apply follows.apply
    · rw [stored]
      rfl
    · rw [stored, StoreCall.uri, get?_updated, if_pos rfl, asked, present]
      rfl
    · rw [stored, uris_updated, held, present, order]
      rfl

private theorem Follows.closing (follows : store.Follows encoding calls) (uri : String) :
    (store.apply (.closing uri)).Follows encoding (calls ++ [.closing uri]) := by
  have closes : (StoreCall.closing uri).renews uri = true := by
    simp [StoreCall.renews, StoreCall.closes]
  apply follows.apply
  · rfl
  · rw [StoreCall.uri, courseOf_concat_renews uri calls closes]
    exact (store.get?_closed uri uri).trans (if_pos rfl)
  · rw [foundings_concat, ← follows.order]
    change (store.closed uri).uris = _
    rw [uris_closed]
    simp [StoreCall.closes, StoreCall.opens, eq_comm]

private theorem Follows.step (follows : store.Follows encoding calls) (call : StoreCall) :
    (store.apply call).Follows encoding (calls ++ [call]) := by
  cases call with
  | opening uri text version language => exact follows.opening uri text version language
  | changing uri revision => exact follows.changing uri revision
  | closing uri => exact follows.closing uri

theorem follows_applyAll (encoding : Option Text.Encoding) (calls : List StoreCall) :
    (Store.applyAll { encoding } calls).Follows encoding calls := by
  induction calls using List.reverseRecOn with
  | nil => exact ⟨rfl, fun _ => rfl, rfl⟩
  | append_singleton calls call held =>
    rw [applyAll, List.foldl_append]
    exact held.step call

private theorem nodup_uris_updated (once : store.uris.Nodup) (uri : String) (document : Document) :
    (store.updated uri document).uris.Nodup := by
  rw [uris_updated]
  split
  · exact once
  · next absent =>
    rw [← mem_uris] at absent
    refine List.nodup_append.mpr ⟨once, by simp, ?_⟩
    intro held member other last
    rw [List.mem_singleton.mp last]
    rintro rfl
    exact absent member

private theorem nodup_uris_apply (once : store.uris.Nodup) (call : StoreCall) :
    (store.apply call).uris.Nodup := by
  cases call with
  | opening uri text version language =>
    rw [apply_opening]
    split
    · exact nodup_uris_updated once uri _
    · exact once
  | changing uri revision =>
    simp only [Store.apply]
    rcases store.changed_cases uri (.int revision.version) revision.edits with
      ⟨fault, same⟩ | same | ⟨document, _, _, same⟩ <;> rw [same]
    · exact once
    · exact once
    · exact nodup_uris_updated once uri _
  | closing uri =>
    change (store.closed uri).uris.Nodup
    rw [uris_closed]
    exact once.filter _

private theorem nodup_uris_applyAll (once : store.uris.Nodup) (calls : List StoreCall) :
    (store.applyAll calls).uris.Nodup := by
  induction calls generalizing store with
  | nil => exact once
  | cons call rest step => exact step (nodup_uris_apply once call)

/-- A change that is not made leaves the store as it is, whether it is ignored or refused. -/
theorem after_changed (store : Store) {uri : String} {version : Json} {edits : List Text.Edit}
    (unmade : ∀ later document, store.changed uri version edits ≠ .ok (later, some document)) :
    store.after ((store.changed uri version edits).map (·.1)) = store := by
  rcases store.changed_cases uri version edits with
    ⟨fault, same⟩ | same | ⟨document, _, _, same⟩
  · rw [same]
    rfl
  · rw [same]
    rfl
  · exact absurd same (unmade _ _)

/-- A version cannot be compared with none. -/
theorem Follows.refuses (follows : store.Follows encoding calls) {uri : String} {course : Course}
    (present : courseOf uri calls = some course) (versioned : course.versions ≠ [])
    (edits : List Text.Edit) :
    store.changed uri .null edits = .error (.incomparable "NoneType" "int") := by
  have held := follows.records uri
  rw [present] at held
  obtain ⟨greatest, same⟩ : ∃ greatest, course.versions.max? = some greatest := by
    cases same : course.versions.max? with
    | none => exact absurd (List.max?_eq_none_iff.mp same) versioned
    | some greatest => exact ⟨greatest, rfl⟩
  have compared : (course.record (encoding.getD .utf16) uri).accepts .null =
      .error (.incomparable "NoneType" "int") := by
    unfold Course.record
    rw [same]
    rfl
  simp only [Store.changed, change?, held, Option.map_some, compared]
  rfl

private theorem Follows.answered (follows : store.Follows encoding calls) (uri : String)
    (revision : Revision) :
    ∃ answer,
      store.changed uri (.int revision.version) revision.edits =
          .ok (store.apply (.changing uri revision), answer) ∧
        (answer.isSome ↔ (courseOf uri calls).any (·.admits revision) = true) ∧
        ∀ document, answer = some document →
          (store.apply (.changing uri revision)).get? uri = some document := by
  rcases follows.changed_cases uri revision with ⟨stale, changed⟩ | ⟨course, present, admitted, changed⟩
  · refine ⟨none, ?_, by simp [stale], by simp⟩
    simp only [Store.apply, changed]
    rfl
  · have stored : store.apply (.changing uri revision) =
        store.updated uri ((course.extend revision).record (encoding.getD .utf16) uri) := by
      simp only [Store.apply, changed]
      rfl
    refine ⟨_, stored ▸ changed, by simp [present, admitted], ?_⟩
    rintro document ⟨⟩
    rw [stored, get?_updated, if_pos rfl]

/-- A store is what its history makes it, and treats the next call accordingly. -/
structure Refines (store : Store) (encoding : Option Text.Encoding) (calls : List StoreCall) : Prop
    extends store.Follows encoding calls where
  /-- Every open document is listed, and once. -/
  listed : ∀ uri, uri ∈ store.uris ↔ (courseOf uri calls).isSome
  once : store.uris.Nodup
  /-- A call touches the document that it is about and no other. -/
  others : ∀ call uri, call.uri ≠ uri → (store.apply call).get? uri = store.get? uri
  /-- A change is answered, and with its document exactly if that admits it. -/
  answered : ∀ uri revision, ∃ answer,
    store.changed uri (.int revision.version) revision.edits =
        .ok (store.apply (.changing uri revision), answer) ∧
      (answer.isSome ↔ (courseOf uri calls).any (·.admits revision) = true) ∧
      ∀ document, answer = some document →
        (store.apply (.changing uri revision)).get? uri = some document
  /-- Any change that is not made leaves the store as it was. -/
  unmoved : ∀ uri version edits,
    (∀ later document, store.changed uri version edits ≠ .ok (later, some document)) →
      store.after ((store.changed uri version edits).map (·.1)) = store
  /-- A change to no version is refused by a document that has one. -/
  refuses : ∀ uri course edits, courseOf uri calls = some course → course.versions ≠ [] →
    store.changed uri .null edits = .error (.incomparable "NoneType" "int")

/-- Every history of a store is refined by what it holds. -/
theorem history_refined (encoding : Option Text.Encoding) (calls : List StoreCall) :
    (Store.applyAll { encoding } calls).Refines encoding calls := by
  have follows := follows_applyAll encoding calls
  have empty : ({ encoding } : Store).uris.Nodup := .nil
  have once := nodup_uris_applyAll empty calls
  refine { follows with
    listed := fun uri => ?_
    once
    others := fun call uri other => get?_apply_of_ne _ other
    answered := follows.answered
    unmoved := fun uri version edits unmade => after_changed _ unmade
    refuses := fun uri course edits present versioned => follows.refuses present versioned edits }
  rw [mem_uris, follows.records uri, Option.isSome_map]

/-- A document that was opened last need not be open: its URI may not be well-formed. -/
theorem malformed_not_opened :
    ¬ ∀ (calls : List StoreCall) (uri text : String) (version : Option Int) (language : Json),
      calls.getLast? = some (.opening uri text version language) →
        (Store.applyAll {} calls).contains uri = true := by
  intro opened
  have malformed := opened [.opening "file://[::1/a.hz" "AB" (some 1) .null] "file://[::1/a.hz" "AB"
    (some 1) .null rfl
  revert malformed
  decide

end Store

end Following

end HazeServer
