import HazeServer.Json.Basic

/-! # Reading JSON

Each reader takes a value off the front of the remaining characters. A number with a point or an
exponent is a double, any other an integer; the doubles that have no digits are written as words. Of
members with one name the last one counts, at the place of the first.
-/

namespace HazeServer

namespace Json

/-- The remaining characters after blanks. -/
def skipBlanks : List Char → List Char
  | c :: rest => if c = ' ' ∨ c = '\n' ∨ c = '\r' ∨ c = '\t' then skipBlanks rest else c :: rest
  | [] => []

/-- The value of a hexadecimal digit. -/
def hexDigit? (c : Char) : Option Nat :=
  if '0' ≤ c ∧ c ≤ '9' then some (c.toNat - 48)
  else if 'a' ≤ c ∧ c ≤ 'f' then some (c.toNat - 87)
  else if 'A' ≤ c ∧ c ≤ 'F' then some (c.toNat - 55)
  else none

/-- The number of four hexadecimal digits. -/
def hexQuad? (a b c d : Char) : Option Nat := do
  return (((← hexDigit? a) * 16 + (← hexDigit? b)) * 16 + (← hexDigit? c)) * 16 + (← hexDigit? d)

/-- Whether a number is the first half of a surrogate pair. -/
def isHighHalf (unit : Nat) : Bool := 0xd800 ≤ unit && unit < 0xdc00

/-- Whether a number is the second half of a surrogate pair. -/
def isLowHalf (unit : Nat) : Bool := 0xdc00 ≤ unit && unit < 0xe000

/-- The character of a code unit. A sender may keep half a surrogate pair in a text; here a text is
made of characters, and the replacement character takes the place of the half, so that such a text is
not kept as it was sent. -/
def unitChar (unit : Nat) : Char :=
  if isHighHalf unit || isLowHalf unit then Char.ofNat 0xfffd else Char.ofNat unit

/-- The character of a surrogate pair. -/
def pairChar (high low : Nat) : Char :=
  Char.ofNat (0x10000 + (high - 0xd800) * 0x400 + (low - 0xdc00))

/-- The rest of a text after its opening quotation mark; `read` holds what was read, in reverse. -/
def readText : List Char → (read : List Char) → Option (String × List Char)
  | '\x22' :: rest, read => some (String.ofList read.reverse, rest)
  | '\\' :: 'u' :: a :: b :: c :: d :: '\\' :: 'u' :: e :: f :: g :: h :: rest, read => do
      let first ← hexQuad? a b c d
      let second ← hexQuad? e f g h
      if isHighHalf first && isLowHalf second then
        readText rest (pairChar first second :: read)
      else
        readText ('\\' :: 'u' :: e :: f :: g :: h :: rest) (unitChar first :: read)
  | '\\' :: 'u' :: a :: b :: c :: d :: rest, read => do
      readText rest (unitChar (← hexQuad? a b c d) :: read)
  | '\\' :: c :: rest, read =>
      match c with
      | 'n' => readText rest ('\n' :: read)
      | 'r' => readText rest ('\r' :: read)
      | 't' => readText rest ('\t' :: read)
      | 'b' => readText rest (Char.ofNat 8 :: read)
      | 'f' => readText rest (Char.ofNat 12 :: read)
      | '\\' => readText rest ('\\' :: read)
      | '/' => readText rest ('/' :: read)
      | '\x22' => readText rest ('\x22' :: read)
      | _ => none
  | c :: rest, read => readText rest (c :: read)
  | [], _ => none
termination_by characters => characters.length

/-- The number written by decimal digits. -/
def digitsValue (digits : List Char) : Nat :=
  digits.foldl (fun value c => value * 10 + (c.toNat - 48)) 0

/-- The exponent of a number, if it has one. -/
def readExponent : List Char → Option Int × List Char
  | mark :: rest =>
      if mark = 'e' ∨ mark = 'E' then
        let (negative, rest) := match rest with
          | '-' :: rest => (true, rest)
          | '+' :: rest => (false, rest)
          | rest => (false, rest)
        let size : Int := digitsValue (rest.takeWhile Char.isDigit)
        (some (if negative then -size else size), rest.dropWhile Char.isDigit)
      else (none, mark :: rest)
  | [] => (none, [])

/-- The digits after the point of a number, if it has one. -/
def readFraction : List Char → Option (List Char) × List Char
  | '.' :: rest => (some (rest.takeWhile Char.isDigit), rest.dropWhile Char.isDigit)
  | rest => (none, rest)

/-- A number without its sign. -/
def readUnsigned (negative : Bool) (text : List Char) : Option (Json × List Char) :=
  let whole := text.takeWhile Char.isDigit
  if whole.isEmpty then none
  else
    let (fraction, rest) := readFraction (text.dropWhile Char.isDigit)
    let (exponent, rest) := readExponent rest
    match fraction, exponent with
    | none, none =>
        let size : Int := digitsValue whole
        some (.int (if negative then -size else size), rest)
    | fraction, exponent =>
        let places := fraction.getD []
        let scale := exponent.getD 0 - (places.length : Int)
        some (.double (Double.ofDecimal negative (digitsValue (whole ++ places)) scale), rest)

/-- A number. -/
def readNumber : List Char → Option (Json × List Char)
  | '-' :: rest => readUnsigned true rest
  | rest => readUnsigned false rest

/-- The values that are written as words. -/
def wordValues : List (List Char × Json) := [
  ("null".toList, .null),
  ("true".toList, .bool true),
  ("false".toList, .bool false),
  ("NaN".toList, .double Double.notNumber),
  ("Infinity".toList, .double (Double.infinity false)),
  ("-Infinity".toList, .double (Double.infinity true))]

/-- A value that is written as a word. -/
def readWord (characters : List Char) : Option (Json × List Char) :=
  wordValues.findSome? fun (word, value) =>
    if word.isPrefixOf characters then some (value, characters.drop word.length) else none

mutual

/-- A value; `depth` bounds the steps taken into it. -/
def readValue : (depth : Nat) → List Char → Option (Json × List Char)
  | 0, _ => none
  | depth + 1, characters =>
      match skipBlanks characters with
      | '\x22' :: rest => (readText rest []).map fun (value, rest) => (.text value, rest)
      | '[' :: rest =>
          match skipBlanks rest with
          | ']' :: rest => some (.list [], rest)
          | rest => (readItems depth rest).map fun (items, rest) => (.list items, rest)
      | '\x7b' :: rest =>
          match skipBlanks rest with
          | '\x7d' :: rest => some (.object [], rest)
          | rest => (readMembers depth rest).map fun (members, rest) =>
              (.object (Table.ofList members).entries, rest)
      | rest => readWord rest <|> readNumber rest

/-- The items of a list that is not empty, and its closing bracket. -/
def readItems : (depth : Nat) → List Char → Option (List Json × List Char)
  | 0, _ => none
  | depth + 1, characters => do
      let (item, rest) ← readValue depth characters
      match skipBlanks rest with
      | ',' :: rest =>
          let (items, rest) ← readItems depth rest
          return (item :: items, rest)
      | ']' :: rest => return ([item], rest)
      | _ => none

/-- The members of an object that is not empty, and its closing bracket. -/
def readMembers : (depth : Nat) → List Char → Option (List (String × Json) × List Char)
  | 0, _ => none
  | depth + 1, characters => do
      let .cons '\x22' rest := skipBlanks characters | none
      let (name, rest) ← readText rest []
      let .cons ':' rest := skipBlanks rest | none
      let (value, rest) ← readValue depth rest
      match skipBlanks rest with
      | ',' :: rest =>
          let (members, rest) ← readMembers depth rest
          return ((name, value) :: members, rest)
      | '\x7d' :: rest => return ([(name, value)], rest)
      | _ => none

end

/-- The value that a whole text spells. -/
def read? (text : String) : Option Json := do
  let characters := text.toList
  let (value, rest) ← readValue (2 * characters.length + 2) characters
  if (skipBlanks rest).isEmpty then some value else none

end Json

end HazeServer
