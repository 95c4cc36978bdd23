import HazeServer.Json.Literal

/-! # Faults

What can go wrong, as causes. A fault has a kind and a message; both appear in log messages and in
error answers. Collaborators outside the library (rules, plugins, hooks, the client) report faults
of five kinds with a text of their own.
-/

namespace HazeServer

/-- The kinds of fault a collaborator reports. -/
inductive FaultKind where
  | runtime
  | value
  | timeout
  | system
  | key
  deriving DecidableEq, Repr

/-- The name of a kind. -/
def FaultKind.name : FaultKind → String
  | .runtime => "RuntimeError"
  | .value => "ValueError"
  | .timeout => "TimeoutError"
  | .system => "OSError"
  | .key => "KeyError"

/-- The kind of a name. -/
def FaultKind.ofName? (name : String) : Option FaultKind :=
  [runtime, value, timeout, system, key].find? (·.name == name)

/-- The two numbers of a position. -/
inductive PositionField where
  | line
  | character
  deriving DecidableEq, Repr

/-- The name of a number of a position. -/
def PositionField.name : PositionField → String
  | .line => "line"
  | .character => "character"

/-- The greatest line or character of a position. -/
def positionLimit : Nat := 2147483647

/-- The messages that carry the version of a document. -/
inductive VersionCarrier where
  | opening
  | change
  | publication
  deriving DecidableEq, Repr

/-- The protocol's name for what carries a version. -/
def VersionCarrier.name : VersionCarrier → String
  | .opening => "TextDocumentItem"
  | .change => "VersionedTextDocumentIdentifier"
  | .publication => "PublishDiagnosticsParams"

/-- The least version of a document in the protocol. -/
def leastVersion : Int := -2147483648

/-- The greatest version of a document in the protocol. -/
def greatestVersion : Int := 2147483647

/-- What is wrong with the authority of a URI. -/
inductive AuthorityFault where
  /-- There is only one of the two brackets, or they do not hold the whole host. -/
  | unbalanced
  /-- What stands in brackets is no address. -/
  | notAddress (host : String)
  /-- An address of the older kind stands in brackets. -/
  | olderAddress
  /-- An address of a kind to come is not well-formed. -/
  | futureAddress
  /-- A character stands for others of which one ends an authority. -/
  | hiddenDelimiter (authority : String)
  deriving DecidableEq, Repr

/-- The message for an authority. -/
def AuthorityFault.message : AuthorityFault → String
  | .unbalanced => "Invalid IPv6 URL"
  | .notAddress host => Text.quoted host ++ " does not appear to be an IPv4 or IPv6 address"
  | .olderAddress => "An IPv4 address cannot be in brackets"
  | .futureAddress => "IPvFuture address is invalid"
  | .hiddenDelimiter authority =>
      "netloc '" ++ authority ++ "' contains invalid characters under NFKC normalization"

/-- A cause of failure. -/
inductive Fault where
  /-- A collaborator failed with a text of its own. -/
  | reported (kind : FaultKind) (text : String)
  /-- The catalogue has no entry for a key. -/
  | unknownKey (key : Json)
  /-- An infinite number has no whole part. -/
  | infiniteNumber
  /-- What is not a number has no whole part. -/
  | notNumber
  /-- A settings reply of a kind that has no first item. -/
  | noItems (kindName : String)
  /-- A settings reply that is an object, which has no first item. -/
  | noFirstItem
  /-- A number of a position that is no integer or outside the protocol's range. -/
  | positionOutOfRange (field : PositionField) (given : Json)
  /-- A version that is no integer or outside the protocol's range. -/
  | versionOutOfRange (carrier : VersionCarrier) (given : Json)
  /-- A URI whose authority is not well-formed. -/
  | badAuthority (fault : AuthorityFault)
  /-- Two values of kinds that have no order. -/
  | incomparable (first second : String)
  /-- A value to be searched for members that cannot be searched. -/
  | notSearchable (kindName : String)
  /-- A value with a number of members that do not fit its shape. -/
  | misfit (subject : String) (count : Nat)
  /-- The problem limit exceeds what a scan can be cut at. -/
  | limitTooLarge
  /-- A log level that does not exist. -/
  | unknownLevel (name : String)
  /-- The log level was left without a value. -/
  | levelMissing
  /-- A text for a log level that names none. -/
  | noLevelName (text : String)
  /-- Something for a log level that is neither a number nor a text. -/
  | noLevel (shown : String)
  /-- A member of a component that is not there. -/
  | componentMissing (member : String)
  deriving Repr

namespace Fault

/-- The name of a fault's kind. -/
def kindName : Fault → String
  | .reported kind _ => kind.name
  | .unknownKey _ => "DetailNotFoundError"
  | .infiniteNumber => "OverflowError"
  | .notNumber => "ValueError"
  | .noItems _ => "TypeError"
  | .noFirstItem => "KeyError"
  | .positionOutOfRange _ _ => "ValueError"
  | .versionOutOfRange _ _ => "ValueError"
  | .badAuthority _ => "ValueError"
  | .incomparable _ _ => "TypeError"
  | .notSearchable _ => "TypeError"
  | .misfit _ _ => "ClassValidationError"
  | .limitTooLarge => "ValueError"
  | .unknownLevel _ => "AttributeError"
  | .levelMissing => "TypeError"
  | .noLevelName _ => "ValueError"
  | .noLevel _ => "TypeError"
  | .componentMissing _ => "AttributeError"

/-- The message of a fault. A missing key is quoted. -/
def message : Fault → String
  | .reported .key text => Text.quoted text
  | .reported _ text => text
  | .unknownKey key => "No catalog entry for key " ++ key.literal
  | .infiniteNumber => "cannot convert float infinity to integer"
  | .notNumber => "cannot convert float NaN to integer"
  | .noItems kindName => "'" ++ kindName ++ "' object is not subscriptable"
  | .noFirstItem => "0"
  | .positionOutOfRange field given =>
      "Position." ++ field.name ++ " should be in range [0:" ++ toString positionLimit
        ++ "], but was " ++ given.plain ++ "."
  | .versionOutOfRange carrier given =>
      carrier.name ++ ".version should be in range [" ++ toString leastVersion ++ ":"
        ++ toString greatestVersion ++ "], but was " ++ given.plain ++ "."
  | .badAuthority fault => fault.message
  | .incomparable first second =>
      "'<=' not supported between instances of '" ++ first ++ "' and '" ++ second ++ "'"
  | .notSearchable kindName => "argument of type '" ++ kindName ++ "' is not iterable"
  | .misfit subject count =>
      "While structuring " ++ subject ++ " (" ++ toString count ++ " sub-exception"
        ++ (if count = 1 then ")" else "s)")
  | .limitTooLarge =>
      "Stop argument for islice() must be None or an integer: 0 <= x <= sys.maxsize."
  | .unknownLevel name => "module 'logging' has no attribute '" ++ name ++ "'"
  | .levelMissing => "attribute name must be string, not 'list'"
  | .noLevelName text => "Unknown level: " ++ Text.quoted text
  | .noLevel shown => "Level not an integer or a valid string: " ++ shown
  | .componentMissing member => "'NoneType' object has no attribute '" ++ member ++ "'"

/-- A fault with its kind, as log messages show it. -/
def described (fault : Fault) : String :=
  fault.kindName ++ ": " ++ fault.message

end Fault

end HazeServer
