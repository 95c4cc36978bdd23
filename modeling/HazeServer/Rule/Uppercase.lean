import HazeServer.Rule.Basic

/-! # Words in capitals

The rule that reports every word made of two or more capital letters only. Words consist of letters,
digits and underscores of ASCII; columns count characters.
-/

namespace HazeServer

namespace Rule

/-- Whether a character belongs to a word. -/
def isWordChar (c : Char) : Bool :=
  c.isAlpha || c.isDigit || c == '_'

/-- The words of a line from a column on, each with its first column; `word` holds the characters of
the current word, in reverse. -/
def wordsFrom (column : Nat) (word : List Char) : List Char → List (Nat × List Char)
  | [] => if word.isEmpty then [] else [(column - word.length, word.reverse)]
  | c :: rest =>
      if isWordChar c then wordsFrom (column + 1) (c :: word) rest
      else
        (if word.isEmpty then [] else [(column - word.length, word.reverse)])
          ++ wordsFrom (column + 1) [] rest

/-- Whether a word is made of two or more capital letters only. -/
def isCapitals (word : List Char) : Bool :=
  2 ≤ word.length && word.all Char.isUpper

/-- The finding for a word of a line. -/
def capitalsFinding (line column : Nat) (word : List Char) : Finding :=
  let range : Text.Range := ⟨⟨line, column⟩, ⟨line, column + word.length⟩⟩
  { range
    message := String.ofList word ++ " is all uppercase."
    related := [⟨range, "Spelling matters", none⟩, ⟨range, "Particularly for names", none⟩] }

/-- The findings in the lines from a number on. -/
def capitalsFrom (number : Nat) : List (List Char) → List Finding
  | [] => []
  | line :: rest =>
      ((wordsFrom 0 [] line).filter fun word => isCapitals word.2).map
          (fun word => capitalsFinding number word.1 word.2)
        ++ capitalsFrom (number + 1) rest

/-- The rule that reports words in capitals. -/
def uppercase : Rule :=
  ⟨"uppercase", fun document => .ok { findings := capitalsFrom 0 document.lines }⟩

end Rule

end HazeServer
