import HazeServer.Json.Basic
import HazeServer.Number.Shortest
import HazeServer.Text.Quoted

/-! # Values in messages

How a message spells a JSON value: texts are quoted, doubles always show a point or an exponent, and
the three constants have capital names.
-/

namespace HazeServer

namespace Json

mutual

/-- The spelling of a value in a message. -/
def literal : Json → String
  | .null => "None"
  | .bool value => if value then "True" else "False"
  | .int value => toString value
  | .double value => value.text
  | .text value => Text.quoted value
  | .list items => "[" ++ ", ".intercalate (literalItems items) ++ "]"
  | .object members => "\x7b" ++ ", ".intercalate (literalMembers members) ++ "\x7d"

/-- The spellings of the items of a list. -/
def literalItems : List Json → List String
  | [] => []
  | item :: rest => literal item :: literalItems rest

/-- The spellings of the members of an object. -/
def literalMembers : List (String × Json) → List String
  | [] => []
  | (name, value) :: rest => (Text.quoted name ++ ": " ++ literal value) :: literalMembers rest

end

/-- The spelling of a value in running text, where a text is not quoted. -/
def plain : Json → String
  | .text value => value
  | value => value.literal

/-- The name by which messages call the kind of a value. -/
def kindName : Json → String
  | .null => "NoneType"
  | .bool _ => "bool"
  | .int _ => "int"
  | .double _ => "float"
  | .text _ => "str"
  | .list _ => "list"
  | .object _ => "dict"

end Json

end HazeServer
