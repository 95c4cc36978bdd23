import HazeServer.Json.Basic
import HazeServer.Number.Shortest
import HazeServer.Text.Quoted

/-! # Writing JSON

The text of a value in one line of ASCII: other characters are written as escaped code units.
Infinities and what is not a number are written as words.
-/

namespace HazeServer

namespace Json

/-- A code unit as an escape. -/
def escapedUnit (unit : Nat) : List Char :=
  ['\\', 'u'] ++ Text.hexadecimal 4 unit

/-- A character inside a text. -/
def escapedChar (c : Char) : List Char :=
  if c = '\x22' ∨ c = '\\' then ['\\', c]
  else if 32 ≤ c.toNat ∧ c.toNat < 127 then [c]
  else if c.toNat < 0x10000 then escapedUnit c.toNat
  else
    let code := c.toNat - 0x10000
    escapedUnit (0xd800 + code / 0x400) ++ escapedUnit (0xdc00 + code % 0x400)

/-- A text between quotation marks. -/
def textToken (text : String) : String :=
  String.ofList ('\x22' :: text.toList.flatMap escapedChar ++ ['\x22'])

/-- The spelling of a double. -/
def doubleToken (double : Double) : String :=
  match double.value with
  | .finite .. => double.text
  | .infinite negative => if negative then "-Infinity" else "Infinity"
  | .notNumber => "NaN"

mutual

/-- The text of a value. -/
def write : Json → String
  | .null => "null"
  | .bool value => if value then "true" else "false"
  | .int value => toString value
  | .double value => doubleToken value
  | .text value => textToken value
  | .list items => "[" ++ ",".intercalate (writeItems items) ++ "]"
  | .object members => "\x7b" ++ ",".intercalate (writeMembers members) ++ "\x7d"

/-- The texts of the items of a list. -/
def writeItems : List Json → List String
  | [] => []
  | item :: rest => write item :: writeItems rest

/-- The texts of the members of an object. -/
def writeMembers : List (String × Json) → List String
  | [] => []
  | (name, value) :: rest => (textToken name ++ ":" ++ write value) :: writeMembers rest

end

end Json

end HazeServer
