import HazeServer.Text.Decimal

/-! # Reading whole numbers

A whole number is written with the digits of any script, one sign at most, single underscores
between digits, and blanks around it. Numerals of more than 4300 digits are refused.
-/

namespace HazeServer

namespace Numeral

/-- The greatest number of digits of a numeral. -/
def maxDigits : Nat := 4300

/-- The values of digits with single underscores between them; `separated` tells that the character
before was no digit, so that a digit has to follow. -/
def digits? : (separated : Bool) → List Char → Option (List Nat)
  | separated, [] => if separated then none else some []
  | separated, '_' :: rest => if separated then none else digits? true rest
  | _, c :: rest => do
      let value ← Text.digitValue? c
      let more ← digits? false rest
      return value :: more

/-- The number that digits write. -/
def valueOf (digits : List Nat) : Nat :=
  digits.foldl (fun value digit => value * 10 + digit) 0

/-- A numeral without its sign. -/
def unsigned? (text : List Char) : Option Nat := do
  let digits ← digits? true text
  if digits.length ≤ maxDigits then some (valueOf digits) else none

/-- A text without the blanks around it. -/
def trimmed (text : List Char) : List Char :=
  ((text.dropWhile Text.isBlank).reverse.dropWhile Text.isBlank).reverse

/-- The whole number that a text writes. -/
def read? (text : String) : Option Int :=
  match trimmed text.toList with
  | '-' :: rest => (unsigned? rest).map fun size => -(size : Int)
  | '+' :: rest => (unsigned? rest).map fun size => (size : Int)
  | rest => (unsigned? rest).map fun size => (size : Int)

end Numeral

end HazeServer
