import HazeServer.Json.Order
import HazeServer.Text.Edit

/-! # Documents

A document that the client has opened: its text, the version and the language the client gave it,
and the encoding in which positions in it are counted, fixed when it was opened. Versions and
languages are kept as they are given; null stands for none.
-/

namespace HazeServer

/-- An open document. -/
structure Document where
  uri : String
  version : Json
  language : Json
  text : String
  encoding : Text.Encoding
  deriving DecidableEq, Repr

namespace Document

/-- The lines of a document, with their ends. -/
def lines (document : Document) : List (List Char) :=
  Text.lines document.text.toList

/-- Whether a change to a version is newer than a document. A document without a version accepts
every change, and a change without a version cannot be compared with a version. -/
def accepts (document : Document) (version : Json) : Except Fault Bool :=
  if document.version.isNull then .ok true
  else (version.atMost document.version).map (!·)

/-- The document after edits, at a version. -/
def edited (document : Document) (version : Json) (edits : List Text.Edit) : Document :=
  { document with version, text := Text.applyEdits document.encoding document.text edits }

end Document

end HazeServer
