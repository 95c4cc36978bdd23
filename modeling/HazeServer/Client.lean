import HazeServer.Shape.Client
import HazeServer.Text.Position

/-! # What a client supports

The handshake tells what the client supports in a nested structure of mostly optional members. It is
reduced to four flags; a path that breaks off anywhere means that something is not supported.
-/

namespace HazeServer

/-- What the connected client supports. -/
structure ClientSupport where
  configuration : Bool := false
  folders : Bool := false
  related : Bool := false
  refresh : Bool := false
  deriving DecidableEq, Repr

/-- Where the four flags stand in the client's capabilities. -/
structure SupportPaths where
  configuration : List String
  folders : List String
  related : List String
  refresh : List String

namespace SupportPaths

/-- The paths in a message of the protocol. -/
def inMessages : SupportPaths where
  configuration := ["workspace", "configuration"]
  folders := ["workspace", "workspaceFolders"]
  related := ["textDocument", "publishDiagnostics", "relatedInformation"]
  refresh := ["workspace", "diagnostics", "refreshSupport"]

/-- The paths in a record of capabilities held by a program. -/
def inRecords : SupportPaths where
  configuration := ["workspace", "configuration"]
  folders := ["workspace", "workspace_folders"]
  related := ["text_document", "publish_diagnostics", "related_information"]
  refresh := ["workspace", "diagnostics", "refresh_support"]

end SupportPaths

/-- The flags of a client's capabilities. -/
def ClientSupport.ofJson (paths : SupportPaths) (client : Json) : ClientSupport where
  configuration := (client.follow paths.configuration).isSet
  folders := (client.follow paths.folders).isSet
  related := (client.follow paths.related).isSet
  refresh := (client.follow paths.refresh).isSet

/-- The encoding of a name in the client's list. -/
def encodingOfItem? : Json → Option Text.Encoding
  | .text name => Text.Encoding.ofName? name
  | _ => none

/-- The encoding for a client: the first it names that exists, else utf-16. -/
def encodingFor (client : Json) : Text.Encoding :=
  match client.follow ["general", "positionEncodings"] with
  | .list names => (names.findSome? encodingOfItem?).getD .utf16
  | _ => .utf16

/-- What a client tells of itself in the handshake. -/
structure ClientProfile where
  support : ClientSupport := {}
  encoding : Text.Encoding := .utf16
  deriving DecidableEq, Repr

/-- The profile in a message of the protocol; a client that tells nothing supports nothing. -/
def ClientProfile.ofJson (client : Json) : Except Fault ClientProfile :=
  if client.isNull then .ok {}
  else do
    let told : Json := .object (← Shape.fitAll "ClientCapabilities" Shape.clientCapabilities client)
    return ⟨.ofJson .inMessages told, encodingFor told⟩

end HazeServer
