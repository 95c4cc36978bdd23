import HazeServer.Fault
import HazeServer.Text.Line

/-! # Positions

A client gives a position as a line and a number of code units of the negotiated encoding within it.
Locating a position finds the line and the number of characters before it. A line that does not
exist stands for the end of the text, a character beyond the line for the place before its last
unit, and a unit inside a character for the place after that character.
-/

namespace HazeServer

namespace Text

/-- The code units in which positions are counted. -/
inductive Encoding where
  | utf8
  | utf16
  | utf32
  deriving DecidableEq, Repr

namespace Encoding

/-- The name of an encoding. -/
def name : Encoding → String
  | .utf8 => "utf-8"
  | .utf16 => "utf-16"
  | .utf32 => "utf-32"

/-- The encoding of a name. -/
def ofName? (name : String) : Option Encoding :=
  [utf8, utf16, utf32].find? (·.name == name)

/-- The number of code units of a character. -/
def units : Encoding → Char → Nat
  | .utf8, c => c.utf8Size
  | .utf16, c => if c.toNat < 0x10000 then 1 else 2
  | .utf32, _ => 1

/-- The number of code units of a text. -/
def size (encoding : Encoding) (text : List Char) : Nat :=
  text.foldr (fun c rest => encoding.units c + rest) 0

/-- The number of characters of a text that cover a number of code units. -/
def covering (encoding : Encoding) (target : Nat) : List Char → Nat
  | [] => 0
  | c :: rest =>
      if target = 0 then 0 else covering encoding (target - encoding.units c) rest + 1

end Encoding

/-- A line, and a number of code units within it. -/
structure Position where
  line : Nat
  character : Nat
  deriving DecidableEq, Repr

/-- A number of a position, if it is an integer within the protocol's range. -/
def checkedNumber (field : PositionField) (given : Json) : Except Fault Nat :=
  match given.asInt? with
  | some number =>
      if 0 ≤ number ∧ number ≤ positionLimit then .ok number.toNat
      else .error (.positionOutOfRange field given)
  | none => .error (.positionOutOfRange field given)

/-- The position of two numbers; the line is checked first. -/
def Position.checked (line character : Json) : Except Fault Position := do
  return ⟨← checkedNumber .line line, ← checkedNumber .character character⟩

/-- The part of a text from a position up to another one. -/
structure Range where
  start : Position
  stop : Position
  deriving DecidableEq, Repr

/-- A place in a text: a line, and the number of characters before the place in that line. -/
structure Place where
  line : Nat
  column : Nat
  deriving DecidableEq, Repr

/-- A line in which a carriage return before a line feed is left out. -/
def withShortEnd : List Char → List Char
  | [] => []
  | '\r' :: '\n' :: rest => '\n' :: withShortEnd rest
  | c :: rest => c :: withShortEnd rest

/-- The number of characters before a unit of a line. -/
def columnOf (encoding : Encoding) (line : List Char) (character : Nat) : Nat :=
  let shown := withShortEnd line
  let total := encoding.size shown
  encoding.covering (if character > total then total - 1 else character) shown

/-- The place of a position in the lines of a text. -/
def locate (encoding : Encoding) (lines : List (List Char)) (position : Position) : Place :=
  match lines[position.line]? with
  | some line => ⟨position.line, columnOf encoding line position.character⟩
  | none =>
      match lines.getLast? with
      | some last => ⟨lines.length - 1, encoding.size last⟩
      | none => ⟨0, 0⟩

end Text

end HazeServer
