/-! # Addresses of hosts

The two kinds of numeric address a host can have. The older kind is four numbers of eight bits in
decimal. The newer kind is eight groups of four hexadecimal digits, of which a run of zeros may be
left out once and the last two may be written as an address of the older kind; the name of a zone may
follow it.
-/

namespace HazeServer

namespace Uri

/-- The pieces of a text between the occurrences of a mark. -/
def pieces (mark : Char) : List Char → List (List Char)
  | [] => [[]]
  | c :: rest =>
      if c = mark then [] :: pieces mark rest
      else
        match pieces mark rest with
        | [] => [[c]]
        | piece :: others => (c :: piece) :: others

/-- The number written by decimal digits. -/
def decimalValue (digits : List Char) : Nat :=
  digits.foldl (fun value c => value * 10 + (c.toNat - 48)) 0

/-- Whether a text is a number of eight bits: up to three digits, without a leading zero. -/
def isOctet (text : List Char) : Bool :=
  !text.isEmpty && text.length ≤ 3 && text.all Char.isDigit
    && (text == ['0'] || text.head? != some '0') && decimalValue text ≤ 255

/-- Whether a text is an address of the older kind. -/
def isOlderAddress (text : List Char) : Bool :=
  let octets := pieces '.' text
  octets.length == 4 && octets.all isOctet

/-- Whether a character is a hexadecimal digit. -/
def isHexDigit (c : Char) : Bool :=
  c.isDigit || ('a' ≤ c && c ≤ 'f') || ('A' ≤ c && c ≤ 'F')

/-- Whether a text is a group of an address of the newer kind. -/
def isGroup (text : List Char) : Bool :=
  !text.isEmpty && text.length ≤ 4 && text.all isHexDigit

/-- The groups of an address, where one of the older kind at the end stands for two groups. -/
def groupsOf (address : List Char) : Option (List (List Char)) :=
  let groups := pieces ':' address
  match groups.getLast? with
  | some last =>
      if groups.length < 3 then none
      else if last.contains '.' then
        if isOlderAddress last then some (groups.dropLast ++ [['0'], ['0']]) else none
      else some groups
  | none => none

/-- The number of groups on one side of a run of zeros that is left out. -/
def groupCount? (side : List (List Char)) : Option Nat :=
  if side == [[]] then some 0
  else if side.all isGroup then some side.length
  else none

/-- Whether groups make up an address; an empty one between others stands for the run of zeros. -/
def areGroups (groups : List (List Char)) : Bool :=
  match (groups.drop 1).dropLast.findIdx? List.isEmpty with
  | none => groups.length == 8 && groups.all isGroup
  | some index =>
      match groupCount? (groups.take (index + 1)), groupCount? (groups.drop (index + 2)) with
      | some front, some back => front + back ≤ 7
      | _, _ => false

/-- Whether the name of a zone, if there is one after an address, is well-formed. -/
def isZone : List Char → Bool
  | [] => true
  | _ :: name => !name.isEmpty && !name.contains '%'

/-- Whether a text is an address of the newer kind. -/
def isNewerAddress (text : List Char) : Bool :=
  isZone (text.dropWhile (· != '%'))
    && (groupsOf (text.takeWhile (· != '%'))).any areGroups

/-- Whether a text is an address of a kind to come: a version in hexadecimal, a point and something
more, after a letter that announces it. -/
def isFutureAddress : List Char → Bool
  | 'v' :: rest =>
      !(rest.takeWhile isHexDigit).isEmpty &&
        match rest.dropWhile isHexDigit with
        | '.' :: more => !more.isEmpty
        | _ => false
  | _ => false

end Uri

end HazeServer
