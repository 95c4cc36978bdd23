import HazeServer.Fault
import HazeServer.Uri.Address

/-! # The authority of a URI

A URI may name an authority after its scheme: what stands between two slashes and the next slash,
question mark or number sign. Any text is accepted as a URI unless its authority is not well-formed:
an authority with brackets has both kinds and names its host by an address, and no character may
stand for several others of which one is a delimiter.
-/

namespace HazeServer

namespace Uri

/-- Whether a character is dropped from the beginning of a URI. -/
def isLeadingBlank (c : Char) : Bool := c.toNat ≤ 32

/-- Whether a character is dropped wherever it stands in a URI. -/
def isDropped (c : Char) : Bool := c == '\t' || c == '\r' || c == '\n'

/-- A URI without the characters that are dropped from it. -/
def cleaned (uri : List Char) : List Char :=
  (uri.dropWhile isLeadingBlank).filter fun c => !isDropped c

/-- Whether a character may stand in a scheme. -/
def isSchemeChar (c : Char) : Bool :=
  c.isAlphanum || c == '+' || c == '-' || c == '.'

/-- Whether a text is a scheme. -/
def isScheme (text : List Char) : Bool :=
  text.head?.any Char.isAlpha && text.all isSchemeChar

/-- What stands after the scheme of a URI, or all of it if it has none. -/
def afterScheme (uri : List Char) : List Char :=
  match uri.dropWhile (· != ':') with
  | _ :: rest => if isScheme (uri.takeWhile (· != ':')) then rest else uri
  | [] => uri

/-- Whether a character ends an authority. -/
def endsAuthority (c : Char) : Bool := c == '/' || c == '?' || c == '#'

/-- The authority of a URI, empty if it names none. -/
def authority (uri : List Char) : List Char :=
  match afterScheme (cleaned uri) with
  | '/' :: '/' :: rest => rest.takeWhile fun c => !endsAuthority c
  | _ => []

/-- The characters that stand for several others, of which one is a slash, a question mark, a number
sign, an at sign or a colon. -/
def delimiterForms : List Char := [
  '\u2047', '\u2048', '\u2049', '\u2100', '\u2101', '\u2105', '\u2106', '\u2a74', '\ufe13',
  '\ufe16', '\ufe55', '\ufe56', '\ufe5f', '\ufe6b', '\uff03', '\uff0f', '\uff1a', '\uff1f',
  '\uff20']

/-- The host of an authority and its port: what stands after the last at sign. -/
def hostAndPort (authority : List Char) : List Char :=
  (authority.reverse.takeWhile (· != '@')).reverse

/-- Check the host of an authority that has brackets. -/
def checkHost (host : List Char) : Except AuthorityFault Unit :=
  if host.head? = some 'v' then
    if isFutureAddress host then .ok () else .error .futureAddress
  else if isOlderAddress host then .error .olderAddress
  else if isNewerAddress host then .ok ()
  else .error (.notAddress (String.ofList host))

/-- Check the host and the port of an authority that has brackets. A bracketed host stands first and
only a colon may follow it, and without brackets the host ends at the first colon. This is the later and
stricter form of the check: the earlier one looks only at what stands between the brackets. -/
def checkHostAndPort (text : List Char) : Except AuthorityFault Unit :=
  match text.dropWhile (· != '['), text.takeWhile (· != '[') with
  | [], host => checkHost (host.takeWhile (· != ':'))
  | _ :: inner, [] =>
    match (inner.dropWhile (· != ']')).drop 1 with
    | [] | ':' :: _ => checkHost (inner.takeWhile (· != ']'))
    | _ => .error .unbalanced
  | _, _ => .error .unbalanced

/-- Check the brackets of an authority and the host that goes with them. -/
def checkBrackets (authority : List Char) : Except AuthorityFault Unit :=
  match authority.contains '[', authority.contains ']' with
  | true, true => checkHostAndPort (hostAndPort authority)
  | false, false => .ok ()
  | _, _ => .error .unbalanced

/-- Check an authority. -/
def checkAuthority (authority : List Char) : Except AuthorityFault Unit := do
  checkBrackets authority
  if authority.any (delimiterForms.contains ·) then
    throw (.hiddenDelimiter (String.ofList authority))

/-- Check a URI. -/
def check (uri : String) : Except Fault Unit :=
  (checkAuthority (authority uri.toList)).mapError .badAuthority

end Uri

end HazeServer
