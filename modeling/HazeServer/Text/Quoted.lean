import HazeServer.Text.Printable

/-! # Quoted text

How messages quote a text: between single quotes, or double ones if that saves an escape. Characters
that cannot be printed are written by their code.
-/

namespace HazeServer

namespace Text

/-- A number in lower-case hexadecimal, filled up with zeros to a width. -/
def hexadecimal (width number : Nat) : List Char :=
  let digits := Nat.toDigits 16 number
  List.replicate (width - digits.length) '0' ++ digits

/-- A character that cannot be printed, by its code, in the shortest of three forms. -/
def escapedByCode (c : Char) : List Char :=
  if c.toNat < 0x100 then ['\\', 'x'] ++ hexadecimal 2 c.toNat
  else if c.toNat < 0x10000 then ['\\', 'u'] ++ hexadecimal 4 c.toNat
  else ['\\', 'U'] ++ hexadecimal 8 c.toNat

/-- One character of a quoted text. -/
def escaped (mark c : Char) : List Char :=
  if c = mark ∨ c = '\\' then ['\\', c]
  else if c = '\n' then ['\\', 'n']
  else if c = '\r' then ['\\', 'r']
  else if c = '\t' then ['\\', 't']
  else if isPrintable c then [c]
  else escapedByCode c

/-- The quotation mark for a text: the double one if the text has single marks only. -/
def quotationMark (text : List Char) : Char :=
  if '\x27' ∈ text ∧ '\x22' ∉ text then '\x22' else '\x27'

/-- A text in quotes. -/
def quoted (text : String) : String :=
  let mark := quotationMark text.toList
  String.ofList (mark :: text.toList.flatMap (escaped mark) ++ [mark])

end Text

end HazeServer
