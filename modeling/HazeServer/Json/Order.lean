import HazeServer.Fault

/-! # The order of values

Numbers compare by their exact values, whatever their kind, and a truth value counts as zero or one.
Texts compare by code points, and lists item by item. Nothing else has an order, but any two values
are equal or not: objects are if they have equal members, in whatever order.
-/

namespace HazeServer

/-- A number among all numbers; a finite one is `mantissa * 2 ^ exponent`. -/
inductive Magnitude where
  | finite (mantissa exponent : Int)
  | infinite (negative : Bool)
  | notNumber
  deriving DecidableEq, Repr

namespace Magnitude

/-- The magnitude of a double. -/
def ofDouble (double : Double) : Magnitude :=
  match double.value with
  | .finite negative mantissa exponent =>
      .finite (if negative then -mantissa else mantissa) exponent
  | .infinite negative => .infinite negative
  | .notNumber => .notNumber

/-- Whether a number is at most another one; what is not a number never is. -/
def atMost : Magnitude → Magnitude → Bool
  | .notNumber, _ => false
  | _, .notNumber => false
  | .infinite true, _ => true
  | _, .infinite negative => !negative
  | .infinite false, .finite .. => false
  | .finite first high, .finite second low =>
      let shared := min high low
      first * Int.pow 2 (high - shared).toNat ≤ second * Int.pow 2 (low - shared).toNat

/-- Whether two numbers are equal. -/
def equals (first second : Magnitude) : Bool :=
  first.atMost second && second.atMost first

end Magnitude

namespace Json

/-- The magnitude of a value that counts as a number. -/
def magnitude? : Json → Option Magnitude
  | .bool value => some (.finite (if value then 1 else 0) 0)
  | .int value => some (.finite value 0)
  | .double value => some (.ofDouble value)
  | _ => none

/-- Whether two values are equal numbers. -/
def equalNumbers (first second : Json) : Bool :=
  match first.magnitude?, second.magnitude? with
  | some first, some second => first.equals second
  | _, _ => false

mutual

/-- Whether two values are equal. -/
def equals : Json → Json → Bool
  | .null, .null => true
  | .text first, .text second => first == second
  | .list first, .list second => equalItems first second
  | .object first, .object second =>
      first.length == second.length && equalMembers first second
  | first, second => first.equalNumbers second

/-- Whether two lists have equal items. -/
def equalItems : List Json → List Json → Bool
  | [], [] => true
  | first :: rest, second :: others => first.equals second && equalItems rest others
  | _, _ => false

/-- Whether every member has an equal one of its name among others. -/
def equalMembers : List (String × Json) → List (String × Json) → Bool
  | [], _ => true
  | (name, value) :: rest, others =>
      (Table.getEntry name others).any value.equals && equalMembers rest others

end

/-- Whether a value that is neither text nor list is at most another one. -/
def numberAtMost (first second : Json) : Except Fault Bool :=
  match first.magnitude?, second.magnitude? with
  | some low, some high => .ok (low.atMost high)
  | _, _ => .error (.incomparable first.kindName second.kindName)

mutual

/-- Whether a value is at most another one. -/
def atMost : Json → Json → Except Fault Bool
  | .int first, .int second => .ok (first ≤ second)
  | .text first, .text second => .ok (!(second < first))
  | .list first, .list second => itemsAtMost first second
  | first, second => first.numberAtMost second

/-- Whether a list is at most another one: the first items that differ decide, or else the
lengths. -/
def itemsAtMost : List Json → List Json → Except Fault Bool
  | [], _ => .ok true
  | _ :: _, [] => .ok false
  | first :: rest, second :: others =>
      if first.equals second then itemsAtMost rest others else first.atMost second

end

end Json

end HazeServer
