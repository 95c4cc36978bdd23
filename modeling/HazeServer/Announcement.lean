import HazeServer.Client
import HazeServer.Shape.Capabilities

/-! # The capabilities a server announces

Negotiation fills in what the server announces in its answer to the handshake. It always announces
incremental text synchronisation, completion with resolving, and diagnostics by document. Workspace
folders are announced only to a client that supports them; otherwise a workspace section without
file operations is dropped.
-/

namespace HazeServer

/-- The workspace section of the announced capabilities. -/
structure WorkspaceSection where
  folders : Option Json := none
  fileOperations : Option (List (String × Json)) := none
  textDocumentContent : Option Json := none
  deriving Repr

/-- The announced capabilities: the members that negotiation sets, and the others as they are. -/
structure ServerCapabilities where
  textDocumentSync : Option Json := none
  completionProvider : Option Json := none
  diagnosticProvider : Option Json := none
  workspace : Option WorkspaceSection := none
  others : List (String × Json) := []
  deriving Repr

namespace WorkspaceSection

/-- The section of a JSON object that has its shape. -/
def ofJson (json : Json) : WorkspaceSection where
  folders := json.member? "workspaceFolders"
  fileOperations := match json.member? "fileOperations" with
    | some (.object operations) => some operations
    | _ => none
  textDocumentContent := json.member? "textDocumentContent"

/-- The JSON object of a section. -/
def toJson (workspace : WorkspaceSection) : Json :=
  .object (Json.optional "workspaceFolders" workspace.folders
    ++ Json.optional "fileOperations" (workspace.fileOperations.map .object)
    ++ Json.optional "textDocumentContent" workspace.textDocumentContent)

/-- Whether a section has no file operations, or an empty set of them. -/
def lacksOperations (workspace : WorkspaceSection) : Bool :=
  match workspace.fileOperations with
  | none => true
  | some operations => operations.isEmpty

end WorkspaceSection

namespace ServerCapabilities

/-- The members that have a field of their own. -/
def ownMembers : List String :=
  ["textDocumentSync", "completionProvider", "diagnosticProvider", "workspace"]

/-- The capabilities of members that have their shape. -/
def ofMembers (members : List (String × Json)) : ServerCapabilities :=
  { textDocumentSync := Table.getEntry "textDocumentSync" members
    completionProvider := Table.getEntry "completionProvider" members
    diagnosticProvider := Table.getEntry "diagnosticProvider" members
    workspace := (Table.getEntry "workspace" members).map .ofJson
    others := members.filter fun member => member.1 ∉ ownMembers }

/-- The capabilities of a JSON object, if it has their shape. -/
def ofJson (json : Json) : Except Fault ServerCapabilities :=
  (Shape.fitAll "ServerCapabilities" Shape.serverCapabilities json).map ofMembers

/-- The JSON object of capabilities. -/
def toJson (capabilities : ServerCapabilities) : Json :=
  .object (Json.optional "textDocumentSync" capabilities.textDocumentSync
    ++ Json.optional "completionProvider" capabilities.completionProvider
    ++ Json.optional "diagnosticProvider" capabilities.diagnosticProvider
    ++ Json.optional "workspace" (capabilities.workspace.map WorkspaceSection.toJson)
    ++ capabilities.others)

/-- Documents are opened and closed, and changed in parts. -/
def announcedSync : Json :=
  .object [("openClose", .bool true), ("change", .int 2)]

/-- Completion items are filled in on demand. -/
def announcedCompletion : Json :=
  .object [("resolveProvider", .bool true)]

/-- Diagnostics concern one document at a time. -/
def announcedDiagnostics : Json :=
  .object [("interFileDependencies", .bool false), ("workspaceDiagnostics", .bool false)]

/-- Workspace folders are supported, with notifications of changes. -/
def announcedFolders : Json :=
  .object [("supported", .bool true), ("changeNotifications", .bool true)]

/-- The workspace section announced to a client. -/
def negotiatedWorkspace (client : ClientSupport) (workspace : Option WorkspaceSection) :
    Option WorkspaceSection :=
  if client.folders then
    some { workspace.getD {} with folders := some announcedFolders }
  else
    match workspace with
    | none => none
    | some given => if given.lacksOperations then none else some { given with folders := none }

/-- The capabilities announced to a client. -/
def negotiate (client : ClientSupport) (capabilities : ServerCapabilities) : ServerCapabilities :=
  { capabilities with
    textDocumentSync := some announcedSync
    completionProvider := some announcedCompletion
    diagnosticProvider := some announcedDiagnostics
    workspace := negotiatedWorkspace client capabilities.workspace }

/-- What the server offers before negotiation, in an encoding. -/
def offered (encoding : Text.Encoding) : ServerCapabilities where
  textDocumentSync := some announcedSync
  completionProvider := some announcedCompletion
  diagnosticProvider := some announcedDiagnostics
  workspace := some { folders := some announcedFolders, fileOperations := some [] }
  others := [("positionEncoding", .text encoding.name),
    ("executeCommandProvider", .object [("commands", .list [])])]

end ServerCapabilities

end HazeServer
