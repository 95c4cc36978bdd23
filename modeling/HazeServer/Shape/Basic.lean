import HazeServer.Json.Order
import HazeServer.Number.Numeral

/-! # Shapes of protocol values

The protocol fixes which members an object has and what each of them is. A value that comes from
outside is fitted to its shape: members that the shape does not know are left out, and so are
optional ones without a value. A text, a truth value or a whole number may be given as a value of
another kind that stands for one. A value that lacks a member it has to have, or that is of a kind
the shape has no use for, does not fit.
-/

namespace HazeServer

/-- What becomes of a member without a value. -/
inductive Presence where
  /-- The member has to be there; null is fitted like any other value. -/
  | required
  /-- The member is left out. -/
  | optional
  /-- The member is written as null. -/
  | nullable
  deriving DecidableEq, Repr

/-- The shape of a value. -/
inductive Shape where
  /-- Any value, kept as it is. -/
  | any
  /-- No value at all. -/
  | nothing
  /-- A text; any other value is spelled out. -/
  | text
  /-- A truth value; any other value counts as one. -/
  | flag
  /-- A whole number within the range of positions. -/
  | index
  /-- One of some values. -/
  | choice (values : List Json)
  /-- A list of values of one shape. -/
  | list (item : Shape)
  /-- A list of values of one shape, or a value of another shape. -/
  | listOr (item other : Shape)
  /-- An object with some members. -/
  | record (fields : List (String × Presence × Shape))
  /-- Null, or a value of another shape. -/
  | orNull (other : Shape)
  /-- A text, number or truth value, kept as it is, or a value of another shape. -/
  | orScalar (other : Shape)
  /-- A text, or a value of another shape. -/
  | orText (other : Shape)
  /-- A value whose shape depends on whether it has a member. -/
  | byMember (name : String) (present absent : Shape)

namespace Json

/-- Whether a text has a part. -/
def occursIn (part : List Char) : List Char → Bool
  | [] => part.isEmpty
  | c :: rest => part.isPrefixOf (c :: rest) || occursIn part rest

/-- Whether a name is found in a value: among the members of an object, the items of a list or the
parts of a text. Nothing else can be searched. -/
def mentions? (name : String) : Json → Option Bool
  | .object members => some (Table.getEntry name members).isSome
  | .list items => some (items.contains (.text name))
  | .text value => some (occursIn name.toList value.toList)
  | _ => none

/-- Whether a value can be searched for members. -/
def isSearchable (json : Json) : Bool :=
  (json.mentions? "").isSome

/-- The member of a name, if there is one. It cannot be read from a value that cannot be searched,
nor from one that is no object but mentions the name. -/
def reach? (name : String) : Json → Option (Option Json)
  | .object members => some (Table.getEntry name members)
  | value => if value.mentions? name = some false then some none else none

/-- The items of a value: those of a list, the characters of a text, or the names of the members of
an object. -/
def items? : Json → Option (List Json)
  | .list items => some items
  | .text value => some (value.toList.map fun c => .text (String.singleton c))
  | .object members => some (members.map fun member => .text member.1)
  | _ => none

/-- Whether a value is a text, a number or a truth value. -/
def isScalar : Json → Bool
  | .bool _ => true
  | .int _ => true
  | .double _ => true
  | .text _ => true
  | _ => false

/-- The whole number that a value stands for: the whole part of a number, or what a text writes. -/
def whole? : Json → Option Int
  | .double value =>
      match value.value with
      | .finite negative mantissa exponent =>
          let size : Int := Double.wholePart mantissa exponent
          some (if negative then -size else size)
      | _ => none
  | .text value => Numeral.read? value
  | value => value.asInt?

end Json

namespace Shape

/-- A member of an object and its shape. -/
abbrev Field := String × Presence × Shape

/-- A member that an object has to have. -/
def needed (name : String) (shape : Shape) : Field := (name, .required, shape)

/-- A member that an object may have. -/
def field (name : String) (shape : Shape) : Field := (name, .optional, shape)

/-- Members that are truth values. -/
def flags (names : List String) : List Field := names.map (field · .flag)

/-- Members that are texts. -/
def texts (names : List String) : List Field := names.map (field · .text)

/-- One of some texts. -/
def oneOf (names : List String) : Shape := .choice (names.map .text)

/-- A whole number from one up to another. -/
def upTo (greatest : Nat) : Shape :=
  .choice ((List.range greatest).map fun (number : Nat) => Json.int (number + 1))

/-- A name out of an open list: any scalar will do. -/
def openName : Shape := .orNull (.orScalar .nothing)

/-- What becomes of all members, if all fit. -/
def gathered (results : List (Option (List (String × Json)))) : Option (List (String × Json)) :=
  (results.mapM id).map List.flatten

mutual

/-- A value fitted to a shape, if it fits. -/
def fit : Shape → Json → Option Json
  | .any, value => some value
  | .nothing, _ => none
  | .text, value => some (.text value.plain)
  | .flag, value => some (.bool value.isTrue)
  | .index, value => do
      let number ← value.whole?
      if 0 ≤ number ∧ number ≤ positionLimit then some (.int number) else none
  | .choice values, value => values.find? value.equals
  | .list item, value => do
      let items ← value.items?
      (items.mapM item.fit).map .list
  | .listOr item _, .list items => (items.mapM item.fit).map .list
  | .listOr _ other, value => other.fit value
  | .record fields, value => (gathered (fitFields fields value)).map .object
  | .orNull _, .null => some .null
  | .orNull other, value => other.fit value
  | .orScalar other, value => if value.isScalar then some value else other.fit value
  | .orText _, .text value => some (.text value)
  | .orText other, value => other.fit value
  | .byMember name present absent, value => do
      if ← value.mentions? name then present.fit value else absent.fit value

/-- What becomes of each member of a value that some fields name; nothing, if it does not fit. -/
def fitFields : List (String × Presence × Shape) → Json → List (Option (List (String × Json)))
  | [], _ => []
  | (name, presence, shape) :: rest, value =>
      let result :=
        match presence, value.reach? name with
        | _, none => none
        | .required, some none => none
        | .required, some (some held) => (shape.fit held).map fun fitted => [(name, fitted)]
        | .optional, some none | .optional, some (some .null) => some []
        | .nullable, some none | .nullable, some (some .null) => some [(name, .null)]
        | _, some (some held) => (shape.fit held).map fun fitted => [(name, fitted)]
      result :: fitFields rest value

end

/-- The members of a value fitted to those of an object, or how many of them do not fit. -/
def fitAll (subject : String) (fields : List Field) (value : Json) :
    Except Fault (List (String × Json)) :=
  if value.isSearchable then
    let results := fitFields fields value
    match gathered results with
    | some members => .ok members
    | none => .error (.misfit subject (results.countP Option.isNone))
  else .error (.notSearchable value.kindName)

/-- A command of the client; its arguments are free. -/
def command : Shape :=
  .record [needed "title" .text, field "tooltip" .text, needed "command" .text,
    field "arguments" (.list .any)]

/-- The kinds of markup. -/
def markupKind : Shape := oneOf ["plaintext", "markdown"]

end Shape

end HazeServer
