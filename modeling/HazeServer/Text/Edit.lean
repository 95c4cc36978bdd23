import HazeServer.Text.Position

/-! # Edits

An edit replaces the whole text or the part between two positions. Both positions are located in the
text as it is before the edit. If the range ends on a line before the one it starts on, nothing
changes; if it ends before its start within one line, the part between is kept twice.
-/

namespace HazeServer

namespace Text

/-- A change of a text. -/
inductive Edit where
  | whole (text : String)
  | part (range : Range) (text : String)
  deriving DecidableEq, Repr

/-- The text of the lines from number `index` on, with the part between two places replaced. -/
def replaceBetween (start stop : Place) (new : List Char) (index : Nat) :
    List (List Char) → List Char
  | [] => []
  | line :: rest =>
      let kept :=
        if index < start.line ∨ stop.line < index then line
        else
          (if index = start.line then line.take start.column ++ new else [])
            ++ (if index = stop.line then line.drop stop.column else [])
      kept ++ replaceBetween start stop new (index + 1) rest

/-- A text with the part of a range replaced; a text without lines is extended. -/
def replaceRange (encoding : Encoding) (range : Range) (new text : List Char) : List Char :=
  match lines text with
  | [] => text ++ new
  | cut =>
      replaceBetween (locate encoding cut range.start) (locate encoding cut range.stop) new 0 cut

/-- The text after an edit. -/
def Edit.apply (encoding : Encoding) (text : String) : Edit → String
  | .whole new => new
  | .part range new => String.ofList (replaceRange encoding range new.toList text.toList)

/-- The text after several edits, each made in the text that the previous one left. -/
def applyEdits (encoding : Encoding) (text : String) (edits : List Edit) : String :=
  edits.foldl (Edit.apply encoding) text

end Text

end HazeServer
