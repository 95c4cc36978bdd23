import HazeServer.Fault

/-! # Versions in messages

The version of a document in a message is an integer of 32 bits, as which a truth value counts too.
A document in the store may have any version, or none, but only one within the range can be sent.
-/

namespace HazeServer

/-- Whether a version can stand in a message. -/
def isSendableVersion (version : Json) : Bool :=
  version.asInt?.any fun number => leastVersion ≤ number && number ≤ greatestVersion

/-- The version of a document in a message. -/
structure Version where
  value : Json
  sendable : isSendableVersion value
  deriving DecidableEq, Repr

/-- The version that a message is given, if it is an integer within the protocol's range. -/
def Version.checked (carrier : VersionCarrier) (given : Json) : Except Fault Version :=
  if sendable : isSendableVersion given then .ok ⟨given, sendable⟩
  else .error (.versionOutOfRange carrier given)

end HazeServer
