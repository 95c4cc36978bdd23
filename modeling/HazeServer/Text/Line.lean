/-! # Lines

A text is cut into lines after every line end; a line keeps its end. A carriage return and a line
feed that follow each other are one end. The empty text has no lines, and nothing follows a final
line end.
-/

namespace HazeServer

namespace Text

/-- Whether a character ends a line. -/
def isLineEnd (c : Char) : Bool :=
  c ∈ ['\n', '\r', '\x0b', '\x0c', '\x1c', '\x1d', '\x1e', '\u0085',
    '\u2028', '\u2029']

/-- The lines of a text, with their ends. -/
def lines : List Char → List (List Char)
  | [] => []
  | '\r' :: '\n' :: rest => ['\r', '\n'] :: lines rest
  | c :: rest =>
      if isLineEnd c then [c] :: lines rest
      else
        match lines rest with
        | [] => [[c]]
        | line :: more => (c :: line) :: more

/-- Nothing is lost: the lines of a text make up the text. -/
theorem flatten_lines (text : List Char) : (lines text).flatten = text := by
  fun_induction lines text with
  | case1 => rfl
  | case2 rest step => simp [step]
  | case3 c rest _ ends step => simp [step]
  | case4 c rest _ ends none step => simp_all
  | case5 c rest _ ends line more some step => simp_all

end Text

end HazeServer
