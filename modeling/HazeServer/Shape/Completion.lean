import HazeServer.Shape.Basic

/-! # The shape of completion items -/

namespace HazeServer

namespace Shape

/-- A position in a text. -/
def position : Shape := .record [needed "line" .index, needed "character" .index]

/-- A range of a text. -/
def range : Shape := .record [needed "start" position, needed "end" position]

/-- The replacement of a range. -/
def textEdit : Shape := .record [needed "range" range, needed "newText" .text]

/-- The replacement of one of two ranges: one for inserting, one for replacing. -/
def insertOrReplace : Shape :=
  .record [needed "newText" .text, needed "insert" range, needed "replace" range]

/-- A text in some language. -/
def markedText : Shape := .record [needed "language" .text, needed "value" .text]

/-- A text in some markup. -/
def markup : Shape := .record [needed "kind" markupKind, needed "value" .text]

/-- A text to be shown: plain, in some markup or in some language, or a list of such parts. -/
def shownText : Shape :=
  .listOr (.orScalar markedText) (.orScalar (.byMember "kind" markup markedText))

/-- The members of a completion item; its data is free. -/
def completionItem : List Field := [
  needed "label" .text,
  field "labelDetails" (.record (texts ["detail", "description"])),
  field "kind" openName,
  field "tags" (.list (upTo 1)),
  field "detail" .text,
  field "documentation" shownText,
  field "deprecated" .flag,
  field "preselect" .flag,
  field "sortText" .text,
  field "filterText" .text,
  field "insertText" .text,
  field "insertTextFormat" (upTo 2),
  field "insertTextMode" (upTo 2),
  field "textEdit" (.byMember "insert" insertOrReplace textEdit),
  field "textEditText" .text,
  field "additionalTextEdits" (.list textEdit),
  field "commitCharacters" (.list .text),
  field "command" command,
  field "data" .any]

end Shape

end HazeServer
