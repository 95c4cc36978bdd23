import HazeServer.Announcement
import HazeServer.Proofs.Table

/-! # What negotiation changes

Negotiation sets three members of the capabilities and the folders of their workspace section. It leaves
all other members alone and comes to rest after one application. The section itself is dropped when there
are no folders and no file operations in it. For a section that holds text document content this is too
early: the content is lost with it.
-/

namespace HazeServer

private theorem Json.getEntry_optional (title name : String) (value : Option Json) :
    Table.getEntry name (Json.optional title value) = if title = name then value else none := by
  cases value <;> simp [Json.optional, Table.getEntry]

namespace WorkspaceSection

/-- Whether a section holds nothing; an empty set of file operations is nothing. -/
def isBlank (workspace : WorkspaceSection) : Bool :=
  workspace.folders.isNone && workspace.lacksOperations && workspace.textDocumentContent.isNone

/-- A section with its folders replaced and all else as it was, or no section if nothing is in it. -/
def withFolders (folders : Option Json) (given : Option WorkspaceSection) : Option WorkspaceSection :=
  (some { given.getD {} with folders }).filter fun workspace => !workspace.isBlank

end WorkspaceSection

namespace ServerCapabilities

/-- The folders announced to a client. -/
def foldersFor (client : ClientSupport) : Option Json :=
  if client.folders then some announcedFolders else none

/-- The announcements that a client gets whatever else there is. -/
structure Announces (client : ClientSupport) (capabilities : ServerCapabilities) : Prop where
  sync : capabilities.textDocumentSync = some announcedSync
  completion : capabilities.completionProvider = some announcedCompletion
  diagnostics : capabilities.diagnosticProvider = some announcedDiagnostics
  folders : capabilities.workspace.bind (·.folders) = foldersFor client

/-- Capabilities as negotiation leaves them: without folders, a section is there for its operations. -/
structure Settled (client : ClientSupport) (capabilities : ServerCapabilities) : Prop extends
    Announces client capabilities where
  workspace : ∀ workspace, capabilities.workspace = some workspace →
    client.folders = true ∨ workspace.lacksOperations = false

/-- A section is given up although it holds something: text document content, and neither folders for the
client nor file operations. -/
structure Forfeits (client : ClientSupport) (given : ServerCapabilities) (workspace : WorkspaceSection) :
    Prop where
  unsupported : client.folders = false
  given : given.workspace = some workspace
  operations : workspace.lacksOperations = true
  content : workspace.textDocumentContent.isSome = true

section Workspace

variable {client : ClientSupport}

theorem negotiatedWorkspace_supported (supported : client.folders = true) (given : Option WorkspaceSection) :
    negotiatedWorkspace client given = some { given.getD {} with folders := some announcedFolders } := by
  simp [negotiatedWorkspace, supported]

theorem negotiatedWorkspace_unsupported (unsupported : client.folders = false) (given : Option WorkspaceSection) :
    negotiatedWorkspace client given =
      (given.filter fun workspace => !workspace.lacksOperations).map ({ · with folders := none }) := by
  cases given with
  | none => simp [negotiatedWorkspace, unsupported]
  | some workspace =>
    cases lacks : workspace.lacksOperations <;>
      simp [negotiatedWorkspace, unsupported, lacks, Option.filter]

end Workspace

/-- Folders are announced to a client that supports them, and only to it. -/
theorem folders_negotiate (client : ClientSupport) (capabilities : ServerCapabilities) :
    (capabilities.negotiate client).workspace.bind (·.folders) = foldersFor client := by
  change (negotiatedWorkspace client capabilities.workspace).bind (·.folders) = _
  cases supports : client.folders with
  | true =>
    rw [negotiatedWorkspace_supported supports]
    simp [foldersFor, supports]
  | false =>
    rw [negotiatedWorkspace_unsupported supports]
    cases capabilities.workspace.filter fun workspace => !workspace.lacksOperations <;>
      simp [foldersFor, supports]

theorem announces_negotiate (client : ClientSupport) (capabilities : ServerCapabilities) :
    Announces client (capabilities.negotiate client) :=
  ⟨rfl, rfl, rfl, folders_negotiate client capabilities⟩

section Fixpoints

variable {client : ClientSupport} {capabilities : ServerCapabilities}

theorem settled_negotiate (client : ClientSupport) (capabilities : ServerCapabilities) :
    Settled client (capabilities.negotiate client) := by
  refine ⟨announces_negotiate client capabilities, fun workspace announced => ?_⟩
  cases supports : client.folders with
  | true => exact .inl rfl
  | false =>
    right
    change negotiatedWorkspace client capabilities.workspace = some workspace at announced
    rw [negotiatedWorkspace_unsupported supports] at announced
    obtain ⟨given, kept, rfl⟩ := Option.map_eq_some_iff.mp announced
    have holds := (Option.filter_eq_some_iff.mp kept).2
    exact Bool.not_eq_true' _ ▸ holds

private theorem negotiatedWorkspace_of_settled (settled : Settled client capabilities) :
    negotiatedWorkspace client capabilities.workspace = capabilities.workspace := by
  have folders := settled.folders
  cases supports : client.folders with
  | true =>
    obtain ⟨workspace, held, announced⟩ : ∃ workspace, capabilities.workspace = some workspace ∧
        workspace.folders = some announcedFolders := by
      simpa [foldersFor, supports, Option.bind_eq_some_iff] using folders
    -- the folders are those that would be put in, so the section stays as it is
    rw [negotiatedWorkspace_supported supports, held, ← announced]
    rfl
  | false =>
    rw [negotiatedWorkspace_unsupported supports]
    cases held : capabilities.workspace with
    | none => rfl
    | some workspace =>
      have absent : workspace.folders = none := by simpa [foldersFor, supports, held] using folders
      have operates : workspace.lacksOperations = false := by
        simpa [supports] using settled.workspace workspace held
      simp [Option.filter, operates, ← absent]

/-- Negotiation changes nothing exactly where it has come to rest. -/
theorem negotiate_eq_self : capabilities.negotiate client = capabilities ↔ Settled client capabilities := by
  constructor
  · intro same
    rw [← same]
    exact settled_negotiate client capabilities
  · intro settled
    rw [negotiate, negotiatedWorkspace_of_settled settled, ← settled.sync, ← settled.completion,
      ← settled.diagnostics]

end Fixpoints

/-- Negotiating once more changes nothing, and what is announced depends on the client only. -/
theorem negotiation_idempotent (client : ClientSupport) (given : Option ServerCapabilities) :
    ((given.getD {}).negotiate client).negotiate client = (given.getD {}).negotiate client ∧
      Announces client ((given.getD {}).negotiate client) := by
  have settled := settled_negotiate client (given.getD {})
  exact ⟨negotiate_eq_self.mpr settled, settled.toAnnounces⟩

section Keeping

variable {client : ClientSupport} {given : ServerCapabilities}

private theorem member?_toJson_other {name : String} (other : name ∉ ownMembers)
    (capabilities : ServerCapabilities) :
    capabilities.toJson.member? name = Table.getEntry name capabilities.others := by
  simp only [ownMembers, List.mem_cons, List.not_mem_nil, or_false, not_or] at other
  obtain ⟨sync, completion, diagnostics, workspace⟩ := other
  simp [toJson, Json.member?, Table.getEntry_append, Json.getEntry_optional, Ne.symm sync,
    Ne.symm completion, Ne.symm diagnostics, Ne.symm workspace]

private theorem withFolders_supported (supported : client.folders = true) (given : Option WorkspaceSection) :
    WorkspaceSection.withFolders (foldersFor client) given = negotiatedWorkspace client given := by
  simp [negotiatedWorkspace_supported supported, WorkspaceSection.withFolders, foldersFor, supported,
    WorkspaceSection.isBlank, Option.filter]

theorem withFolders_unsupported (unsupported : client.folders = false) (given : Option WorkspaceSection) :
    WorkspaceSection.withFolders (foldersFor client) given =
      (given.filter fun workspace => !(workspace.lacksOperations && workspace.textDocumentContent.isNone)).map
        ({ · with folders := none }) := by
  cases given <;>
    simp [WorkspaceSection.withFolders, foldersFor, unsupported, WorkspaceSection.isBlank,
      WorkspaceSection.lacksOperations, Option.filter]

/-- Where nothing is given up, negotiation replaces the folders and drops only what is blank. -/
theorem negotiatedWorkspace_of_kept (kept : ∀ workspace, ¬ Forfeits client given workspace) :
    negotiatedWorkspace client given.workspace =
      WorkspaceSection.withFolders (foldersFor client) given.workspace := by
  cases supports : client.folders with
  | true => exact (withFolders_supported supports given.workspace).symm
  | false =>
    rw [negotiatedWorkspace_unsupported supports, withFolders_unsupported supports]
    cases held : given.workspace with
    | none => rfl
    | some workspace =>
      cases lacks : workspace.lacksOperations with
      | false => simp [Option.filter, lacks]
      | true =>
        -- this is where both drop the section: it would be given up if it had content
        have empty : workspace.textDocumentContent = none := by
          cases content : workspace.textDocumentContent with
          | none => rfl
          | some value => exact absurd ⟨supports, held, lacks, by rw [content]; rfl⟩ (kept workspace)
        simp [Option.filter, lacks, empty]

private theorem Forfeits.dropped {workspace : WorkspaceSection} (forfeits : Forfeits client given workspace) :
    negotiatedWorkspace client given.workspace = none := by
  rw [negotiatedWorkspace_unsupported forfeits.unsupported, forfeits.given]
  simp [Option.filter, forfeits.operations]

private theorem Forfeits.deserved {workspace : WorkspaceSection}
    (forfeits : Forfeits client given workspace) :
    WorkspaceSection.withFolders (foldersFor client) given.workspace = some { workspace with folders := none } := by
  rw [withFolders_unsupported forfeits.unsupported, forfeits.given]
  have content := forfeits.content
  cases held : workspace.textDocumentContent <;> simp_all [Option.filter]

/-- File operations are never lost. -/
theorem operations_negotiate {workspace : WorkspaceSection} (held : given.workspace = some workspace)
    (operates : workspace.lacksOperations = false) :
    (negotiatedWorkspace client given.workspace).bind (·.fileOperations) = workspace.fileOperations := by
  cases supports : client.folders with
  | true => simp [negotiatedWorkspace_supported supports, held]
  | false => simp [negotiatedWorkspace_unsupported supports, held, Option.filter, operates]

end Keeping

/-- What negotiation makes of given capabilities. -/
structure Keeps (client : ClientSupport) (given announced : ServerCapabilities) : Prop extends
    Announces client announced where
  /-- A member that negotiation does not set is written as it was. -/
  others : ∀ name, name ∉ ownMembers → announced.toJson.member? name = given.toJson.member? name
  /-- File operations are kept if there are any. -/
  operations : ∀ workspace, given.workspace = some workspace → workspace.lacksOperations = false →
    announced.workspace.bind (·.fileOperations) = workspace.fileOperations
  /-- The section has its folders replaced, and is dropped if nothing is left in it, unless it is one that
  negotiation gives up. -/
  workspace : announced.workspace = WorkspaceSection.withFolders (foldersFor client) given.workspace ↔
    ∀ workspace, ¬ Forfeits client given workspace
  forfeited : ∀ workspace, Forfeits client given workspace → announced.workspace = none

/-- Negotiation keeps what it does not set, except for the text document content of a section without file
operations when the client does not support folders. -/
theorem negotiation_keeps_unless_forfeited (client : ClientSupport) (given : ServerCapabilities) :
    Keeps client given (given.negotiate client) := by
  refine ⟨announces_negotiate client given, ?_, ?_, ⟨?_, negotiatedWorkspace_of_kept⟩, ?_⟩
  · intro name other
    rw [member?_toJson_other other, member?_toJson_other other]
    rfl
  · intro workspace held operates
    exact operations_negotiate held operates
  · intro same workspace forfeits
    have lost : (given.negotiate client).workspace = none := forfeits.dropped
    rw [lost, forfeits.deserved] at same
    cases same
  · intro workspace forfeits
    exact forfeits.dropped

/-- Capabilities with text document content and nothing else. -/
def contentOnly : ServerCapabilities :=
  { workspace := some { textDocumentContent := some (.object [("schemes", .list [.text "haze"])]) } }

theorem contentOnly_forfeited :
    ofJson (.object [("workspace", .object [("textDocumentContent",
        .object [("schemes", .list [.text "haze"])])])]) = .ok contentOnly ∧
      (contentOnly.negotiate {}).workspace = none ∧
      (contentOnly.negotiate {}).workspace ≠
        WorkspaceSection.withFolders (foldersFor {}) contentOnly.workspace := by
  have keeps := negotiation_keeps_unless_forfeited {} contentOnly
  have forfeits : Forfeits {} contentOnly (contentOnly.workspace.getD {}) := ⟨rfl, rfl, rfl, rfl⟩
  exact ⟨rfl, keeps.forfeited _ forfeits, fun same => keeps.workspace.mp same _ forfeits⟩

end ServerCapabilities

end HazeServer
