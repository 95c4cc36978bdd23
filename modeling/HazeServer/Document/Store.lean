import HazeServer.Document.Basic
import HazeServer.Table
import HazeServer.Uri.Authority

/-! # The document store

The open documents, in the order in which they were opened. The store trusts the client's versions:
a change that is not newer than what it holds is ignored, so repeated or reordered changes cannot
take a document back. A document whose URI is not well-formed cannot be opened.
-/

namespace HazeServer

/-- The open documents, and the encoding for documents opened from now on, if one was chosen. -/
structure Store where
  encoding : Option Text.Encoding := none
  documents : Table Document := .empty
  deriving Repr

namespace Store

/-- The document of a URI, if it is open. -/
def get? (store : Store) (uri : String) : Option Document :=
  store.documents.get? uri

/-- Whether a URI is open. -/
def contains (store : Store) (uri : String) : Bool :=
  store.documents.contains uri

/-- The open URIs. -/
def uris (store : Store) : List String :=
  store.documents.names

/-- The record that opening a document makes; without a chosen encoding it is utf-16. -/
def newDocument (store : Store) (uri text : String) (version language : Json) : Document :=
  { uri, version, language, text, encoding := store.encoding.getD .utf16 }

/-- Put a record in the place of the one a URI has. -/
def updated (store : Store) (uri : String) (document : Document) : Store :=
  { store with documents := store.documents.set uri document }

/-- Open a document; an open one is replaced. -/
def opened (store : Store) (uri text : String) (version language : Json) : Except Fault Store := do
  Uri.check uri
  return store.updated uri (store.newDocument uri text version language)

/-- Change a document: the changed record, or nothing if the change is ignored. -/
def change? (store : Store) (uri : String) (version : Json) (edits : List Text.Edit) :
    Except Fault (Option Document) :=
  match store.get? uri with
  | none => .ok none
  | some document => do
      if ← document.accepts version then
        return some (document.edited version edits)
      else
        return none

/-- Change a document, and tell what became of it. -/
def changed (store : Store) (uri : String) (version : Json) (edits : List Text.Edit) :
    Except Fault (Store × Option Document) := do
  match ← store.change? uri version edits with
  | some document => return (store.updated uri document, some document)
  | none => return (store, none)

/-- The lines of a document, with their ends; only an open one has any. -/
def lines (store : Store) (uri : String) : Except Fault (List (List Char)) :=
  match store.get? uri with
  | some document => .ok document.lines
  | none => .error (.componentMissing "lines")

/-- Close a document. -/
def closed (store : Store) (uri : String) : Store :=
  { store with documents := store.documents.erase uri }

end Store

end HazeServer
