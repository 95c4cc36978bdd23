import HazeServer.Number.Double
import HazeServer.Table

/-! # JSON values

Client and server exchange JSON. A number written as a whole number is an integer of any size, every
other number is a double, and the members of an object keep their order.
-/

namespace HazeServer

/-- A JSON value; integers and doubles are different values. -/
inductive Json where
  | null
  | bool (value : Bool)
  | int (value : Int)
  | double (value : Double)
  | text (value : String)
  | list (items : List Json)
  | object (members : List (String × Json))
  deriving Repr, Inhabited

namespace Json

mutual

/-- Decide whether two values are the same. -/
def decEq : (first second : Json) → Decidable (first = second)
  | .null, .null => .isTrue rfl
  | .bool a, .bool b => if same : a = b then .isTrue (by rw [same]) else .isFalse (by simp [same])
  | .int a, .int b => if same : a = b then .isTrue (by rw [same]) else .isFalse (by simp [same])
  | .double a, .double b =>
      if same : a = b then .isTrue (by rw [same]) else .isFalse (by simp [same])
  | .text a, .text b => if same : a = b then .isTrue (by rw [same]) else .isFalse (by simp [same])
  | .list a, .list b =>
      match decEqItems a b with
      | .isTrue same => .isTrue (by rw [same])
      | .isFalse other => .isFalse (by simp [other])
  | .object a, .object b =>
      match decEqMembers a b with
      | .isTrue same => .isTrue (by rw [same])
      | .isFalse other => .isFalse (by simp [other])
  | .null, .bool _ | .null, .int _ | .null, .double _ | .null, .text _ | .null, .list _
  | .null, .object _ | .bool _, .null | .bool _, .int _ | .bool _, .double _ | .bool _, .text _
  | .bool _, .list _ | .bool _, .object _ | .int _, .null | .int _, .bool _ | .int _, .double _
  | .int _, .text _ | .int _, .list _ | .int _, .object _ | .double _, .null | .double _, .bool _
  | .double _, .int _ | .double _, .text _ | .double _, .list _ | .double _, .object _
  | .text _, .null | .text _, .bool _ | .text _, .int _ | .text _, .double _ | .text _, .list _
  | .text _, .object _ | .list _, .null | .list _, .bool _ | .list _, .int _ | .list _, .double _
  | .list _, .text _ | .list _, .object _ | .object _, .null | .object _, .bool _
  | .object _, .int _ | .object _, .double _ | .object _, .text _ | .object _, .list _ =>
      .isFalse (by simp)

/-- Decide whether two lists of items are the same. -/
def decEqItems : (first second : List Json) → Decidable (first = second)
  | [], [] => .isTrue rfl
  | [], _ :: _ => .isFalse (by simp)
  | _ :: _, [] => .isFalse (by simp)
  | a :: rest, b :: others =>
      match decEq a b, decEqItems rest others with
      | .isTrue same, .isTrue sames => .isTrue (by rw [same, sames])
      | .isFalse other, _ => .isFalse (by simp [other])
      | _, .isFalse other => .isFalse (by simp [other])

/-- Decide whether two lists of members are the same. -/
def decEqMembers : (first second : List (String × Json)) → Decidable (first = second)
  | [], [] => .isTrue rfl
  | [], _ :: _ => .isFalse (by simp)
  | _ :: _, [] => .isFalse (by simp)
  | (name, a) :: rest, (title, b) :: others =>
      if sameName : name = title then
        match decEq a b, decEqMembers rest others with
        | .isTrue same, .isTrue sames => .isTrue (by rw [sameName, same, sames])
        | .isFalse other, _ => .isFalse (by simp [other])
        | _, .isFalse other => .isFalse (by simp [other])
      else .isFalse (by simp [sameName])

end

instance : DecidableEq Json := decEq

/-- The member of a name; what is no object has no members. -/
def member? (name : String) : Json → Option Json
  | .object members => Table.getEntry name members
  | _ => none

/-- The value at the end of a path of member names, or null where the path breaks off. -/
def follow (json : Json) (path : List String) : Json :=
  path.foldl (fun reached name => (reached.member? name).getD .null) json

/-- Whether a value counts as set: null, false, zeros and empty texts and lists do not; an object
does, even an empty one. -/
def isSet : Json → Bool
  | .null => false
  | .bool value => value
  | .int value => value != 0
  | .double value => !value.isZero
  | .text value => !value.isEmpty
  | .list items => !items.isEmpty
  | .object _ => true

/-- Whether a value counts as true: null, zeros and everything empty does not. -/
def isTrue : Json → Bool
  | .object members => !members.isEmpty
  | value => value.isSet

/-- The integer that a value is; a truth value counts as one. -/
def asInt? : Json → Option Int
  | .int value => some value
  | .bool value => some (if value then 1 else 0)
  | _ => none

/-- Whether a value is null. -/
def isNull : Json → Bool
  | .null => true
  | _ => false

/-- A member that is left out when there is no value for it. -/
def optional (name : String) (value : Option Json) : List (String × Json) :=
  value.toList.map (name, ·)

/-- A member that is left out when its value is null. -/
def unlessNull (name : String) (value : Json) : List (String × Json) :=
  if value.isNull then [] else [(name, value)]

end Json

end HazeServer
