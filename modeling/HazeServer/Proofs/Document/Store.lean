import HazeServer.Document.Store
import HazeServer.Proofs.Table

/-! # What calls do to the store

The records and the order of documents after each operation of the store. A change is refused, ignored,
or made in the record of its document.
-/

namespace HazeServer

namespace Store

variable (store : Store) (uri other : String)

theorem get?_updated (document : Document) :
    (store.updated uri document).get? other = if other = uri then some document else store.get? other :=
  Table.get?_set _ uri other document

theorem get?_updated_self (document : Document) :
    (store.updated uri document).get? uri = some document := by
  rw [get?_updated, if_pos rfl]

theorem get?_closed : (store.closed uri).get? other = if other = uri then none else store.get? other :=
  Table.get?_erase _ uri other

theorem mem_uris {store : Store} {uri : String} : uri ∈ store.uris ↔ (store.get? uri).isSome :=
  Table.mem_names

theorem uris_updated (document : Document) :
    (store.updated uri document).uris =
      if (store.get? uri).isSome then store.uris else store.uris ++ [uri] := by
  have present : uri ∈ store.documents.names ↔ (store.get? uri).isSome := Table.mem_names
  rw [uris, updated, Table.names_set]
  simp only [present]
  rfl

theorem uris_closed : (store.closed uri).uris = store.uris.filter (· ≠ uri) :=
  Table.names_erase _ uri

theorem updated_updated (earlier later : Document) :
    (store.updated uri earlier).updated uri later = store.updated uri later :=
  congrArg (Store.mk store.encoding) (Table.set_set store.documents uri earlier later)

theorem updated_of_get? {store : Store} {uri : String} {document : Document}
    (held : store.get? uri = some document) : store.updated uri document = store :=
  congrArg (Store.mk store.encoding) (Table.set_of_get? held)

/-- A change that its document takes is made in the record. -/
theorem changed_of_accepts {store : Store} {uri : String} {document : Document} {version : Json}
    (held : store.get? uri = some document) (accepted : document.accepts version = .ok true)
    (edits : List Text.Edit) :
    store.changed uri version edits =
      .ok (store.updated uri (document.edited version edits), some (document.edited version edits)) := by
  simp only [changed, change?, held, accepted]
  rfl

/-- A change is ignored if there is no document that it is newer than. -/
theorem changed_of_ignored {store : Store} {uri : String} {version : Json}
    (ignored : ∀ document, store.get? uri = some document → document.accepts version = .ok false)
    (edits : List Text.Edit) : store.changed uri version edits = .ok (store, none) := by
  cases held : store.get? uri with
  | none =>
    simp only [changed, change?, held]
    rfl
  | some document =>
    simp only [changed, change?, held, ignored document held]
    rfl

theorem changed_of_refused {store : Store} {uri : String} {document : Document} {version : Json}
    {fault : Fault} (held : store.get? uri = some document) (refused : document.accepts version = .error fault)
    (edits : List Text.Edit) : store.changed uri version edits = .error fault := by
  simp only [changed, change?, held, refused]
  rfl

theorem changed_cases (version : Json) (edits : List Text.Edit) :
    (∃ fault, store.changed uri version edits = .error fault) ∨
      store.changed uri version edits = .ok (store, none) ∨
      ∃ document, store.get? uri = some document ∧ document.accepts version = .ok true ∧
        store.changed uri version edits =
          .ok (store.updated uri (document.edited version edits), some (document.edited version edits)) := by
  cases held : store.get? uri with
  | none => exact .inr (.inl (changed_of_ignored (by simp [held]) edits))
  | some document =>
    cases accepted : document.accepts version with
    | error fault => exact .inl ⟨fault, changed_of_refused held accepted edits⟩
    | ok newer =>
      cases newer with
      | false => exact .inr (.inl (changed_of_ignored (by simp [held, accepted]) edits))
      | true => exact .inr (.inr ⟨document, rfl, accepted, changed_of_accepts held accepted edits⟩)

end Store

end HazeServer
