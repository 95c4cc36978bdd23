import HazeServer.Proofs.Document.History

/-! # Deliveries converge

Changes may reach the store more than once and out of order. As long as each of them replaces the whole
text at some point, what a document comes to depends only on which changes were delivered: the one of the
greatest version decides, if it goes beyond the version that was held, and everything else is overwritten
or ignored.
-/

namespace HazeServer

/-- Whether an edit replaces the whole text. -/
def Text.Edit.isWhole : Text.Edit → Bool
  | .whole _ => true
  | .part _ _ => false

/-- Whether a change replaces the whole text at some point. -/
def Revision.isWhole (revision : Revision) : Bool :=
  revision.edits.any (·.isWhole)

/-- The change that decides what a document comes to: it has the greatest version, and that goes beyond
the version held. -/
structure Decisive (held : Int) (revisions : List Revision) (revision : Revision) : Prop where
  delivered : revision ∈ revisions
  beyond : held < revision.version
  greatest : ∀ other ∈ revisions, other.version ≤ revision.version

/-- What a document of a version comes to when changes are delivered. -/
inductive ComesTo (document : Document) (held : Int) (revisions : List Revision) : Document → Prop where
  | kept (stale : ∀ revision ∈ revisions, revision.version ≤ held) :
      ComesTo document held revisions document
  | decided (revision : Revision) (decisive : Decisive held revisions revision) :
      ComesTo document held revisions (document.edited (.int revision.version) revision.edits)

/-- The calls that deliver changes of a document. -/
def deliveries (uri : String) (revisions : List Revision) : List StoreCall :=
  revisions.map (.changing uri)

/-- Nothing is left of the text before edits that replace it. -/
theorem Text.applyEdits_of_isWhole (encoding : Text.Encoding) {edits : List Text.Edit}
    (whole : edits.any (·.isWhole) = true) (first second : String) :
    Text.applyEdits encoding first edits = Text.applyEdits encoding second edits := by
  induction edits generalizing first second with
  | nil => cases whole
  | cons edit rest step =>
    cases edit with
    | whole text => rfl
    | part range text => exact step whole _ _

private theorem Document.edited_edited (document : Document) (version : Json) (edits : List Text.Edit)
    {later : Revision} (whole : later.isWhole = true) :
    (document.edited version edits).edited (.int later.version) later.edits =
      document.edited (.int later.version) later.edits := by
  unfold edited
  congr 1
  exact Text.applyEdits_of_isWhole _ whole _ _

section Deciding

variable {document : Document} {held : Int} {first second : List Revision}

/-- A change that is not newer than what is held decides nothing. -/
theorem ComesTo.skip {record : Document} {revisions : List Revision} {revision : Revision}
    (comes : ComesTo document held revisions record) (stale : revision.version ≤ held) :
    ComesTo document held (revision :: revisions) record := by
  cases comes with
  | kept others =>
    apply ComesTo.kept
    simpa using ⟨stale, others⟩
  | decided latest decisive =>
    apply ComesTo.decided
    constructor
    · exact List.mem_cons_of_mem _ decisive.delivered
    · exact decisive.beyond
    · simpa using ⟨Int.le_of_lt (Int.lt_of_le_of_lt stale decisive.beyond), decisive.greatest⟩

/-- A change that is made decides until a later one does. -/
theorem ComesTo.make {record : Document} {revisions : List Revision} {revision : Revision}
    (newer : held < revision.version) (whole : ∀ other ∈ revisions, other.isWhole = true)
    (comes : ComesTo (document.edited (.int revision.version) revision.edits) revision.version revisions
      record) :
    ComesTo document held (revision :: revisions) record := by
  cases comes with
  | kept others =>
    apply ComesTo.decided
    constructor
    · exact List.mem_cons_self
    · exact newer
    · simpa using others
  | decided latest decisive =>
    rw [Document.edited_edited _ _ _ (whole latest decisive.delivered)]
    apply ComesTo.decided
    constructor
    · exact List.mem_cons_of_mem _ decisive.delivered
    · exact Int.lt_trans newer decisive.beyond
    · simpa using ⟨Int.le_of_lt decisive.beyond, decisive.greatest⟩

private theorem ComesTo.unique (same : ∀ revision, revision ∈ first ↔ revision ∈ second)
    (consistent : ∀ revision ∈ first, ∀ other ∈ first, revision.version = other.version → revision = other)
    {record other : Document} (comes : ComesTo document held first record)
    (too : ComesTo document held second other) : record = other := by
  cases comes with
  | kept stale =>
    cases too with
    | kept => rfl
    | decided latest decisive =>
      have reached := stale latest ((same latest).mpr decisive.delivered)
      exact absurd decisive.beyond (Int.not_lt.mpr reached)
  | decided revision decisive =>
    cases too with
    | kept stale =>
      have reached := stale revision ((same revision).mp decisive.delivered)
      exact absurd decisive.beyond (Int.not_lt.mpr reached)
    | decided latest also =>
      have delivered := (same latest).mpr also.delivered
      have above := decisive.greatest latest delivered
      have below := also.greatest revision ((same revision).mp decisive.delivered)
      rw [consistent revision decisive.delivered latest delivered (Int.le_antisymm below above)]

end Deciding

namespace Store

variable {store : Store} {uri : String} {document : Document} {held : Int}

/-- A change is made if it is newer, and else ignored. -/
theorem apply_changing (stored : store.get? uri = some document)
    (versioned : document.version.asInt? = some held) (revision : Revision) :
    store.apply (.changing uri revision) =
      if held < revision.version then
        store.updated uri (document.edited (.int revision.version) revision.edits)
      else store := by
  have given : (Json.int revision.version).asInt? = some revision.version := rfl
  have accepts := Document.accepts_of_asInt? versioned given
  split
  · next newer =>
    rw [decide_eq_true newer] at accepts
    rw [apply, changed_of_accepts stored accepts]
    rfl
  · next stale =>
    rw [decide_eq_false stale] at accepts
    simp only [apply, changed, change?, stored, accepts]
    rfl

/-- Deliveries leave the store with what the document comes to, and nothing else is touched. -/
theorem applyAll_deliveries (stored : store.get? uri = some document)
    (versioned : document.version.asInt? = some held) {revisions : List Revision}
    (whole : ∀ revision ∈ revisions, revision.isWhole = true) :
    ∃ record, ComesTo document held revisions record ∧
      store.applyAll (deliveries uri revisions) = store.updated uri record := by
  -- each change that is made sets the version that later ones have to exceed
  induction revisions generalizing store document held with
  | nil =>
    refine ⟨document, .kept (by simp), ?_⟩
    exact (updated_of_get? stored).symm
  | cons revision others step =>
    have remaining := fun other member => whole other (List.mem_cons_of_mem revision member)
    have applied := apply_changing stored versioned revision
    change ∃ record, ComesTo document held (revision :: others) record ∧
      (store.apply (.changing uri revision)).applyAll (deliveries uri others) = store.updated uri record
    rw [applied]
    split
    · next newer =>
      have now := store.get?_updated_self uri (document.edited (.int revision.version) revision.edits)
      obtain ⟨record, comes, left⟩ := step now rfl remaining
      exact ⟨record, comes.make newer remaining, by rw [left, updated_updated]⟩
    · next stale =>
      obtain ⟨record, comes, left⟩ := step stored versioned remaining
      exact ⟨record, comes.skip (Int.not_lt.mp stale), left⟩

/-- Two deliveries of the same changes, in whatever order and however often, leave the same store. -/
theorem deliveries_converge (stored : store.get? uri = some document)
    (versioned : document.version.asInt? = some held) {first second : List Revision}
    (same : ∀ revision, revision ∈ first ↔ revision ∈ second)
    (consistent : ∀ revision ∈ first, ∀ other ∈ first, revision.version = other.version → revision = other)
    (whole : ∀ revision ∈ first, revision.isWhole = true) :
    store.applyAll (deliveries uri first) = store.applyAll (deliveries uri second) ∧
      ∃ record, (store.applyAll (deliveries uri second)).get? uri = some record ∧
        ComesTo document held first record := by
  obtain ⟨record, comes, left⟩ := applyAll_deliveries stored versioned whole
  have again : ∀ revision ∈ second, revision.isWhole = true := fun revision member =>
    whole revision ((same revision).mpr member)
  obtain ⟨other, too, right⟩ := applyAll_deliveries stored versioned again
  have agreed := comes.unique same consistent too
  rw [left, right, ← agreed]
  exact ⟨rfl, record, store.get?_updated_self uri record, comes⟩

/-- Three changes in the order of their versions; the first of them is out of date. -/
def orderedChanges : List Revision :=
  [⟨0, [.whole ""]⟩, ⟨2, [.whole "ab", .part ⟨⟨0, 0⟩, ⟨0, 1⟩⟩ "é"]⟩, ⟨5, [.whole "AB"]⟩]

/-- The same changes with the newest first, one of them repeated. -/
def reorderedChanges : List Revision :=
  [⟨5, [.whole "AB"]⟩, ⟨0, [.whole ""]⟩, ⟨2, [.whole "ab", .part ⟨⟨0, 0⟩, ⟨0, 1⟩⟩ "é"]⟩,
    ⟨5, [.whole "AB"]⟩]

theorem reorderedChanges_converge :
    (Store.applyAll {} [.opening "file:///b.hz" "" (some 1) .null]).applyAll
        (deliveries "file:///b.hz" orderedChanges) =
      (Store.applyAll {} [.opening "file:///b.hz" "" (some 1) .null]).applyAll
        (deliveries "file:///b.hz" reorderedChanges) ∧
      ∃ record, ((Store.applyAll {} [.opening "file:///b.hz" "" (some 1) .null]).applyAll
          (deliveries "file:///b.hz" reorderedChanges)).get? "file:///b.hz" = some record ∧
        ComesTo ⟨"file:///b.hz", .int 1, .null, "", .utf16⟩ 1 orderedChanges record := by
  apply deliveries_converge
  · rfl
  · rfl
  · intro revision
    simp only [orderedChanges, reorderedChanges, List.mem_cons, List.not_mem_nil, or_false]
    tauto
  · simp [orderedChanges]
  · decide

end Store

end HazeServer
